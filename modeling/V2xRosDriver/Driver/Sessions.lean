/-
# Driver.Sessions -- one live mosquitto handle per client, over whole runs

A `connect` that finds a handle already in place overwrites it, and the old handle lives
on with its loop thread and its callbacks.  The guard of `connect` asks only whether the
client is connected, which it is not while a CONNACK is on its way.  A reconnect that
comes before the first connect thread has created its handle closes nothing, waits for
that thread and connects again: two handles are alive (`reconnect_leaks_handle`).

If a reconnect, a configure and the node's destructor begin only while no `connect` is
still to let go of its handle, every client keeps its handles in order to the end
(`one_live_handle`).  The invariant is `Kept`; here it is carried through the steps of the
connect thread and the callbacks of the transports, and from there through every run.
-/
import V2xRosDriver.Driver.HandleInvariant

namespace V2xRosDriver.Driver

set_option autoImplicit false

open V2xRosDriver.Theory.Transition
open V2xRosDriver.Radio

open RadioClient (Benign letGo)

section Kept

variable {s t : Node}

/-! ## The connect thread and the callbacks of a transport -/

/-- While a `connect` is pending, nothing is closed or deleted and the callback starts no
thread; the clients' handles are what is left to look at. -/
theorem Kept.of_active (kept : Kept s) (pending : active letGo s = true)
    (guarded : Guarded letGo t) {c : Nat} (points : s.radioClient = some c)
    {change : RadioClient → RadioClient} (clients : t.clients = (s.onClient c change).clients)
    (owned : (change (s.clients c).radio).Owned)
    (closing : (change (s.clients c).radio).isClosing = (s.clients c).radio.isClosing)
    (thread : ∀ d, s.connectThread = some (.connecting d) → d = c)
    (busy : (change (s.clients c).radio).done = false → t.connectThread = some (.connecting c))
    (started : t.connectThread ≠ some .launched) (client : t.radioClient = s.radioClient)
    (closes : t.closing = s.closing) (deletes : t.deleting = s.deleting)
    (script : t.script = s.script) : Kept t := by
  have here : (t.clients c).radio = change (s.clients c).radio := by
    rw [clients, Node.onClient_self]
  have elsewhere {d : Nat} (other : d ≠ c) : t.clients d = s.clients d := by
    rw [clients, Node.onClient_ne s other]
  have open_ : t.closing = none := closes.trans (kept.guarded.closing pending)
  refine ⟨guarded, ?_, ?_, ?_, ?_, ?_, ?_, ?_, ?_⟩
  · rw [clients]
    exact s.forall_onClient (P := fun _ radio => radio.Owned) owned fun d _ => kept.owned d
  · intro d working
    by_cases same : d = c
    · subst same
      rw [here] at working
      exact busy working
    · rw [elsewhere same] at working
      exact absurd (thread d (kept.busy d working)) same
  · intro d runs
    rw [closes]
    apply kept.closes d
    by_cases same : d = c
    · subst same
      rw [← closing, ← here]
      exact runs
    · rw [← elsewhere same]
      exact runs
  · intro d runs
    rw [open_] at runs
    cases runs
  · intro waits
    rw [script, not_awaitsFresh_of_harmless (kept.guarded.harmless pending)] at waits
    cases waits
  · intro starts
    exact absurd starts started
  · intro d running
    rw [deletes, kept.guarded.deleting pending] at running
    cases running
  · intro d isGone
    rw [clients, Node.onClient_gone] at isGone
    obtain ⟨cleared, unpointed, unclosed⟩ := kept.gone d isGone
    have other : d ≠ c := by
      rintro rfl
      exact unpointed points
    rw [elsewhere other, client, closes]
    exact ⟨cleared, unpointed, unclosed⟩

theorem Kept.threadStep (kept : Kept s) (guarded : Guarded letGo t) {succeeds : Bool}
    (moved : s.threadStep succeeds = some t) : Kept t := by
  rcases threadStep_cases moved with ⟨c, thread, points, rfl⟩ | ⟨c, thread, rfl⟩ | ⟨thread, rfl⟩
  · have pending : active letGo s = true := by simp [active, thread]
    have open_ : (s.clients c).radio.isClosing = false := by
      rw [Bool.eq_false_iff]
      intro running
      have closing := kept.closes c running
      rw [kept.guarded.closing pending] at closing
      cases closing
    refine kept.of_active pending guarded points rfl ?_ ?_ ?_ (fun _ => rfl) (by simp) rfl rfl rfl
      rfl
    · exact RadioClient.owned_beginConnect (kept.owned c) open_ (kept.launched thread c points) _
    · exact RadioClient.isClosing_beginConnect _ _
    · intro d connects
      rw [thread] at connects
      cases connects
  · by_cases pending : active letGo s = true
    · have points := kept.guarded.owner pending c thread
      refine kept.of_active pending guarded points rfl ?_ ?_ ?_ ?_ ?_ rfl rfl rfl rfl
      · exact RadioClient.owned_stepConnect (kept.owned c) succeeds
      · exact RadioClient.isClosing_stepConnect _ _
      · intro d connects
        rw [thread] at connects
        cases connects
        rfl
      · intro working
        rw [if_pos (by
          rw [Node.onClient_self]
          exact RadioClient.isConnecting_of_working working)]
      · split <;> simp
    · -- the call has let go of the handle and returns
      rw [Bool.not_eq_true] at pending
      have leaving : letGo (s.clients c).radio.phase = true := by
        simpa [active, thread] using pending
      apply kept.of_inactive pending guarded (benign_onClient (RadioClient.benign_leave leaving).1)
        (fun d => s.onClient_gone c d _) _ rfl rfl rfl id
      intro starts
      simp only [Option.some.injEq] at starts
      split at starts <;> cases starts
  · have inactive : active letGo s = false := by simp [active, thread]
    exact kept.of_inactive inactive guarded (fun _ => .refl _) (fun _ => rfl) (by simp) rfl rfl rfl
      id

theorem Kept.callBack (kept : Kept s) (guarded : Guarded letGo t) {c : Nat}
    {answer : RadioClient → Option RadioClient}
    (benign : ∀ r answered, answer r = some answered → Benign r answered)
    (moved : s.callBack c answer = some t) : Kept t := by
  obtain ⟨radio, answered, rfl⟩ := callBack_cases moved
  exact kept.of_benign guarded (benign_onClient (benign _ _ answered))
    (fun d => s.onClient_gone c d _) kept.busy id rfl rfl rfl id

/-! ## Runs -/

/-- One step. -/
theorem Kept.step (kept : Kept s) {a : Node.Action} (allowed : Undisturbed letGo s a)
    (moved : s.step a = some t) : Kept t := by
  have leaves : Leaves letGo := fun _ _ leaving => (RadioClient.benign_leave leaving).2
  have guarded : Guarded letGo t := kept.guarded.step leaves allowed moved
  cases a with
  | configure | reconnect | shutdown | destruct =>
      simp only [Node.step] at moved
      split at moved
      · cases moved
        -- no callback starts a thread before it has closed or replaced the client
        exact kept.of_same guarded rfl rfl rfl rfl rfl fun waits => by cases waits
      · cases moved
  | executor => exact kept.executorStep guarded moved
  | thread succeeds => exact kept.threadStep guarded moved
  | connack c handle rc accepted =>
      exact kept.callBack guarded (fun _ _ => RadioClient.benign_connack) moved
  | dropped c handle => exact kept.callBack guarded (fun _ _ => RadioClient.benign_dropped) moved
  | error c =>
      obtain ⟨-, rfl⟩ := error_cases moved
      exact kept.of_same guarded rfl rfl rfl rfl rfl id

theorem Kept.of_start : Kept {} := by
  refine ⟨.of_start letGo, fun _ => trivial, ?_, ?_, ?_, ?_, ?_, ?_, ?_⟩
  · intro c working
    cases working
  · intro c running
    cases running
  · intro c running
    cases running
  · intro waits
    cases waits
  · intro starts
    cases starts
  · intro d deletes
    cases deletes
  · intro c isGone
    cases isGone

/-- Every run. -/
theorem kept_of_reachable (reached : system.ReachableUnder (Undisturbed letGo) s) : Kept s := by
  apply reached.invariant
  · rintro _ rfl
    exact .of_start
  · intro u a v kept allowed moved
    exact kept.step allowed moved

end Kept

/-! ## One live handle -/

/-- The MQTT session of a client. -/
def RadioClient.session? : RadioClient → Option Mqtt.MqttSession
  | .mqtt calls => some calls.client.session
  | .udp _ => none

/-- A client has at most one handle alive, the current one, and destroys none twice; a client
that is gone has destroyed each of its handles once. -/
def OneLiveHandle (s : Node) : Prop :=
  ∀ c session, (s.clients c).radio.session? = some session →
    (∀ h < session.created, (session.handles h).destroys = 0 → session.mosq = some h) ∧
    (∀ h < session.created, (session.handles h).destroys ≤ 1) ∧
    ((s.clients c).gone = true → ∀ h < session.created, (session.handles h).destroys = 1)

/-- **When no handle is lost.**  In every run in which a reconnect, a configure and the node's
destructor begin only while no `connect` is still to let go of its handle, every client has
at most one live handle, and none is left when the client is gone. -/
theorem one_live_handle {s : Node}
    (reached : system.ReachableUnder (Undisturbed letGo) s) : OneLiveHandle s := by
  intro c session holds
  have kept := kept_of_reachable reached
  cases kind : (s.clients c).radio with
  | mqtt calls =>
      rw [kind] at holds
      cases holds
      have owned : Mqtt.Owned calls.client.session (calls.connectAt.map (·.2)) calls.closeAt := by
        have known := kept.owned c
        rw [kind] at known
        exact known
      refine ⟨owned.live, owned.once, ?_⟩
      intro isGone
      have cleared := (kept.gone c isGone).1
      rw [kind] at cleared
      exact owned.destroyed cleared
  | udp calls =>
      rw [kind] at holds
      cases holds

/-- A first connect up to its return, then a reconnect up to the end of its own connect. -/
def reconnectOnce : List Node.Action :=
  [configureMqtt, List.replicate 5 (.thread true), [.reconnect], List.replicate 14 .executor,
    List.replicate 2 (.thread true), List.replicate 2 .executor,
    List.replicate 5 (.thread true)].flatten

/-- The node on its second handle. -/
def reconnectedNode : Node := (system.runUnder (Undisturbed letGo) {} reconnectOnce).getD {}

theorem reconnectedNode_reached : system.ReachableUnder (Undisturbed letGo) reconnectedNode := by
  have succeeds : (system.runUnder (Undisturbed letGo) {} reconnectOnce).isSome = true := rfl
  exact System.reachableUnder_getD (.start rfl) succeeds {}

theorem second_session_alone :
    (reconnectedNode.clients 0).radio.session?.map (fun session =>
        (session.mosq, session.created)) = some (some 1, 2) ∧
      OneLiveHandle reconnectedNode :=
  ⟨rfl, one_live_handle reconnectedNode_reached⟩

/-- A reconnect before the first connect thread has begun.  Its `close` finds no handle, and
its own connect creates a second one. -/
def reconnectTooEarly : List Node.Action :=
  [configureMqtt, [.reconnect], List.replicate 8 .executor, List.replicate 7 (.thread true),
    List.replicate 2 .executor, List.replicate 3 (.thread true)].flatten

def leakingNode : Node := (system.run {} reconnectTooEarly).getD {}

/-- A reconnect leaks the handle of a connect that it did not see. -/
theorem reconnect_leaks_handle : ¬ ∀ s, system.Reachable s → OneLiveHandle s := by
  intro alone
  have succeeds : (system.run {} reconnectTooEarly).isSome = true := rfl
  have reached : system.Reachable leakingNode := System.reachable_getD (.start rfl) succeeds {}
  obtain ⟨session, holds⟩ : ∃ session, (leakingNode.clients 0).radio.session? = some session :=
    Option.isSome_iff_exists.mp rfl
  have twice : (leakingNode.clients 0).radio.session?.map (fun session =>
      (session.mosq, session.created, (session.handles 0).destroys)) = some (some 1, 2, 0) := rfl
  rw [holds] at twice
  simp only [Option.map_some, Option.some.injEq, Prod.mk.injEq] at twice
  obtain ⟨current, created, undestroyed⟩ := twice
  -- handle 0 is alive, but handle 1 is the current one
  have same := (alone leakingNode reached 0 session holds).1 0 (by omega) undestroyed
  rw [current] at same
  cases same

end V2xRosDriver.Driver
