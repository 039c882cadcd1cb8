/-
# Driver.PendingConnect -- what may happen while a connect call is pending

The connect thread works on a client through the node's pointer, and only `pre_spin` and
`handle_on_shutdown` ever wait for it.  `pre_spin` waits after its caller has closed or
replaced the client, so a reconnect, a repeated configure or the node's destructor can
pull the client from under a running `connect` (`reconnect_closes_during_connect`).

If these three begin only while no `connect` is pending, nothing disturbs one
(`connect_undisturbed`).  The invariant is about the callback that is running: while a
connect is pending, the rest of it neither closes, replaces nor deletes a client before
it has joined the thread (`Guarded`).

Which calls count as pending is a parameter.  `settled` may exempt the last steps of a
`connect` that can no longer be harmed.
-/
import V2xRosDriver.Driver.Machine

namespace V2xRosDriver.Driver

set_option autoImplicit false

open V2xRosDriver.Theory.Transition
open V2xRosDriver.Radio

/-! ## Reading a changed node -/

namespace Node

@[simp] theorem onClient_self (s : Node) (c : Nat) (change : RadioClient → RadioClient) :
    ((s.onClient c change).clients c).radio = change (s.clients c).radio := by
  simp [onClient]

@[simp] theorem onClient_ne (s : Node) {c d : Nat} (other : d ≠ c)
    (change : RadioClient → RadioClient) : (s.onClient c change).clients d = s.clients d := by
  simp [onClient, other]

@[simp] theorem onClient_gone (s : Node) (c d : Nat) (change : RadioClient → RadioClient) :
    ((s.onClient c change).clients d).gone = (s.clients d).gone := by
  by_cases same : d = c
  · subst same
    simp [onClient]
  · rw [onClient_ne s same]

@[simp] theorem wireError_radio (s : Node) (c d : Nat) :
    ((s.wireError c).clients d).radio = (s.clients d).radio := by
  by_cases same : d = c
  · subst same
    simp [wireError]
  · simp [wireError, same]

@[simp] theorem wireError_gone (s : Node) (c d : Nat) :
    ((s.wireError c).clients d).gone = (s.clients d).gone := by
  by_cases same : d = c
  · subst same
    simp [wireError]
  · simp [wireError, same]

@[simp] theorem finishDelete_radio (s : Node) (c d : Nat) :
    ((s.finishDelete c).clients d).radio = (s.clients d).radio := by
  by_cases same : d = c
  · subst same
    simp [finishDelete]
  · simp [finishDelete, same]

theorem finishDelete_gone (s : Node) {c d : Nat} (other : d ≠ c) :
    ((s.finishDelete c).clients d).gone = (s.clients d).gone := by
  simp [finishDelete, other]

/-- What holds of the changed client and of all others as they were holds of every client. -/
theorem forall_onClient (s : Node) {c : Nat} {change : RadioClient → RadioClient}
    {P : Nat → RadioClient → Prop} (here : P c (change (s.clients c).radio))
    (elsewhere : ∀ d, d ≠ c → P d (s.clients d).radio) (d : Nat) :
    P d ((s.onClient c change).clients d).radio := by
  by_cases same : d = c
  · subst same
    rw [onClient_self]
    exact here
  · rw [onClient_ne s same]
    exact elsewhere d same

/-- A change that keeps the phase of every client keeps it under `onClient`. -/
theorem onClient_phase (s : Node) (c d : Nat) {change : RadioClient → RadioClient}
    (kept : (change (s.clients c).radio).phase = (s.clients c).radio.phase) :
    ((s.onClient c change).clients d).radio.phase = (s.clients d).radio.phase :=
  s.forall_onClient (P := fun d radio => radio.phase = (s.clients d).radio.phase) kept
    (fun _ _ => rfl) d

end Node

/-! ## Pending calls and harmless callbacks -/

/-- Phases of a `connect` call that count as over. -/
abbrev Settled := Option (Mqtt.ConnectPc ⊕ Udp.ConnectPc) → Bool

/-- The connect thread is about to call `connect`, or is in a call that is not settled. -/
def active (settled : Settled) (s : Node) : Bool :=
  match s.connectThread with
  | some .launched => true
  | some (.connecting c) => !settled (s.clients c).radio.phase
  | _ => false

/-- The entry points that may close, replace or delete a client without waiting for the connect
thread first. -/
def Node.Action.disturbs : Node.Action → Bool
  | .configure _ _ _ | .reconnect | .destruct => true
  | _ => false

/-- Such an entry point begins only while no `connect` is pending. -/
def Undisturbed (settled : Settled) (s : Node) (a : Node.Action) : Prop :=
  a.disturbs = true → active settled s = false

instance (settled : Settled) (s : Node) (a : Node.Action) : Decidable (Undisturbed settled s a) :=
  inferInstanceAs (Decidable (_ → _))

/-- Instructions that leave the client pointer, the thread and every `close` alone. -/
def Instr.passive : Instr → Bool
  | .clearError | .setConnecting | .clearConnecting | .loadWaveConfig _ | .setWaveFilePath _
  | .wireHandlers => true
  | _ => false

/-- Instructions that may lead to a new connect thread. -/
def Instr.starts : Instr → Bool
  | .testConnecting | .testConnected | .startThread => true
  | _ => false

/-- A callback that can run while a `connect` is pending: it does nothing to a client before
it joins, and starts no thread. -/
def harmless : List Instr → Bool
  | [] => true
  | .join :: rest => rest.all fun instr => !instr.starts
  | instr :: rest => instr.passive && harmless rest

/-- Wherever a callback may start a thread, it goes on harmlessly. -/
def ordered : List Instr → Bool
  | [] => true
  | instr :: rest => (!instr.starts || harmless rest) && ordered rest

/-- The clients the node and its thread refer to exist.  While a `connect` is pending, none
is being closed or deleted, the rest of the callback is harmless, and the node still points
to the client being connected. -/
structure Guarded (settled : Settled) (s : Node) : Prop where
  ordered : ordered s.script = true
  pointed : ∀ c, s.radioClient = some c → c < s.created
  connecting : ∀ c, s.connectThread = some (.connecting c) → c < s.created
  closing : active settled s = true → s.closing = none
  deleting : active settled s = true → s.deleting = none
  harmless : active settled s = true → harmless s.script = true
  owner : active settled s = true → ∀ c, s.connectThread = some (.connecting c) →
    s.radioClient = some c

section Guard

variable {settled : Settled} {s t : Node}

/-- What is pending depends on the thread and the phase of the client it connects. -/
theorem active_congr (thread : t.connectThread = s.connectThread)
    (phases : ∀ c, s.connectThread = some (.connecting c) →
      (t.clients c).radio.phase = (s.clients c).radio.phase) :
    active settled t = active settled s := by
  unfold active
  rw [thread]
  cases at_ : s.connectThread with
  | none => rfl
  | some thread =>
      cases thread with
      | connecting c => simp only [phases c at_]
      | _ => rfl

/-- `t` has the thread, the pointer and the `connect` calls of `s`. -/
structure SameConnects (s t : Node) : Prop where
  thread : t.connectThread = s.connectThread
  phases : ∀ c, (t.clients c).radio.phase = (s.clients c).radio.phase
  client : t.radioClient = s.radioClient
  created : t.created = s.created

/-- `t` differs from `s` in nothing the guard looks at but the callback. -/
structure Unmoved (s t : Node) : Prop extends SameConnects s t where
  closing : t.closing = s.closing
  deleting : t.deleting = s.deleting

theorem SameConnects.active (same : SameConnects s t) : active settled t = active settled s :=
  active_congr same.thread fun c _ => same.phases c

theorem Guarded.of_unmoved (guarded : Guarded settled s) (unmoved : Unmoved s t)
    (inOrder : Driver.ordered t.script = true)
    (harmless : Driver.active settled s = true → Driver.harmless t.script = true) :
    Guarded settled t where
  ordered := inOrder
  pointed c points := by
    rw [unmoved.created]
    exact guarded.pointed c (unmoved.client ▸ points)
  connecting c connects := by
    rw [unmoved.created]
    exact guarded.connecting c (unmoved.thread ▸ connects)
  closing pending := by
    rw [unmoved.closing]
    exact guarded.closing (unmoved.active ▸ pending)
  deleting pending := by
    rw [unmoved.deleting]
    exact guarded.deleting (unmoved.active ▸ pending)
  harmless pending := harmless (unmoved.active ▸ pending)
  owner pending c connects := by
    rw [unmoved.client]
    exact guarded.owner (unmoved.active ▸ pending) c (unmoved.thread ▸ connects)

/-- With nothing pending no thread is about to call `connect`. -/
theorem not_launched (inactive : active settled s = false) :
    s.connectThread ≠ some .launched := by
  intro launched
  simp [active, launched] at inactive

/-- A running `close` tells that nothing is pending. -/
theorem Guarded.inactive_of_closing (guarded : Guarded settled s) {c : Nat}
    (closing : s.closing = some c) : Driver.active settled s = false := by
  rw [Bool.eq_false_iff]
  intro pending
  rw [guarded.closing pending] at closing
  cases closing

/-- So does a running destructor. -/
theorem Guarded.inactive_of_deleting (guarded : Guarded settled s) {c : Nat}
    (deleting : s.deleting = some c) : Driver.active settled s = false := by
  rw [Bool.eq_false_iff]
  intro pending
  rw [guarded.deleting pending] at deleting
  cases deleting

/-- With nothing pending there is nothing to guard but the references. -/
theorem Guarded.of_inactive (inOrder : Driver.ordered t.script = true)
    (pointed : ∀ c, t.radioClient = some c → c < t.created)
    (connecting : ∀ c, t.connectThread = some (.connecting c) → c < t.created)
    (inactive : active settled t = false) : Guarded settled t := by
  refine ⟨inOrder, pointed, connecting, ?_, ?_, ?_, ?_⟩ <;> simp [inactive]

theorem Guarded.of_sameConnects (guarded : Guarded settled s) (same : SameConnects s t)
    (inOrder : Driver.ordered t.script = true) (inactive : active settled s = false) :
    Guarded settled t := by
  refine .of_inactive inOrder ?_ ?_ (same.active.trans inactive)
  · intro c points
    rw [same.created]
    exact guarded.pointed c (same.client ▸ points)
  · intro c connects
    rw [same.created]
    exact guarded.connecting c (same.thread ▸ connects)

/-! ## The executor -/

theorem close_sameConnects (s : Node) : SameConnects s s.close ∧ s.close.script = s.script := by
  unfold Node.close
  split
  · exact ⟨⟨rfl, fun d => s.onClient_phase _ d (by simp), rfl, rfl⟩, rfl⟩
  · exact ⟨⟨rfl, fun _ => rfl, rfl, rfl⟩, rfl⟩

theorem beginDelete_sameConnects (s : Node) (c : Nat) : SameConnects s (s.beginDelete c) :=
  ⟨rfl, fun d => s.onClient_phase c d (by simp), rfl, rfl⟩

/-- A passive instruction moves nothing the guard looks at. -/
theorem execute_passive {instr : Instr} (passive : instr.passive = true)
    (moved : s.execute instr = some t) : Unmoved s t ∧ t.script = s.script := by
  cases instr with
  | clearError | setConnecting | clearConnecting | loadWaveConfig =>
      cases moved
      exact ⟨⟨⟨rfl, fun _ => rfl, rfl, rfl⟩, rfl, rfl⟩, rfl⟩
  | setWaveFilePath path =>
      simp only [Node.execute] at moved
      split at moved
      · cases moved
        exact ⟨⟨⟨rfl, fun d => s.onClient_phase _ d (by simp), rfl, rfl⟩, rfl, rfl⟩, rfl⟩
      · cases moved
        exact ⟨⟨⟨rfl, fun _ => rfl, rfl, rfl⟩, rfl, rfl⟩, rfl⟩
  | wireHandlers =>
      simp only [Node.execute] at moved
      split at moved
      · cases moved
        exact ⟨⟨⟨rfl, fun d => by rw [Node.wireError_radio], rfl, rfl⟩, rfl, rfl⟩, rfl⟩
      · cases moved
        exact ⟨⟨⟨rfl, fun _ => rfl, rfl, rfl⟩, rfl, rfl⟩, rfl⟩
  | _ => cases passive

/-- `createRadioClient` points to a new client and begins to delete the old one. -/
theorem createRadioClient_spec (s : Node) :
    s.createRadioClient.connectThread = s.connectThread ∧
      s.createRadioClient.script = s.script ∧
      s.createRadioClient.radioClient = some s.created ∧
      s.createRadioClient.created = s.created + 1 ∧
      ∀ d, d ≠ s.created →
        (s.createRadioClient.clients d).radio.phase = (s.clients d).radio.phase := by
  unfold Node.createRadioClient
  cases s.radioClient with
  | none =>
      refine ⟨rfl, rfl, rfl, rfl, fun d other => ?_⟩
      simp [other]
  | some old =>
      refine ⟨rfl, rfl, rfl, rfl, fun d other => ?_⟩
      rw [(beginDelete_sameConnects _ old).phases]
      simp [other]

/-- An instruction carried out with nothing pending. -/
theorem Guarded.execute_inactive {instr : Instr} {rest : List Instr}
    (guarded : Guarded settled s) (script : s.script = instr :: rest)
    (inactive : active settled s = false) (closing : s.closing = none)
    (deleting : s.deleting = none)
    (moved : { s with script := rest }.execute instr = some t) : Guarded settled t := by
  have inOrder := guarded.ordered
  rw [script] at inOrder
  simp only [Driver.ordered, Bool.and_eq_true, Bool.or_eq_true, Bool.not_eq_true'] at inOrder
  obtain ⟨starts, later⟩ := inOrder
  -- the same node with the instruction taken off the callback
  have taken : Guarded settled { s with script := rest } :=
    .of_inactive later guarded.pointed guarded.connecting inactive
  have quiet : active settled { s with script := rest } = false := inactive
  by_cases passive : instr.passive = true
  · obtain ⟨unmoved, script⟩ := execute_passive passive moved
    exact taken.of_sameConnects unmoved.toSameConnects (by rw [script]; exact later) quiet
  · cases instr with
    | createRadioClient =>
        cases moved
        obtain ⟨thread, script, client, created, phases⟩ :=
          createRadioClient_spec { s with script := rest }
        refine .of_inactive (by rw [script]; exact later) ?_ ?_ ?_
        · intro c points
          rw [client] at points
          rw [created, ← Option.some.inj points]
          exact Nat.lt_succ_self _
        · intro c connects
          rw [thread] at connects
          rw [created]
          exact Nat.lt_succ_of_lt (guarded.connecting c connects)
        · rw [active_congr thread fun c connects => phases c
            (Nat.ne_of_lt (guarded.connecting c connects))]
          exact quiet
    | close =>
        cases moved
        obtain ⟨same, script⟩ := close_sameConnects { s with script := rest }
        exact taken.of_sameConnects same (by rw [script]; exact later) quiet
    | testError =>
        cases moved
        split
        · refine .of_inactive ?_ guarded.pointed guarded.connecting quiet
          simpa [Driver.ordered, Instr.starts] using later
        · exact taken
    | testConnecting =>
        cases moved
        split
        · exact taken
        · refine .of_inactive ?_ guarded.pointed guarded.connecting quiet
          simp only [Instr.starts, Bool.true_eq_false, false_or] at starts
          simp [Driver.ordered, starts, later]
    | testConnected =>
        cases moved
        split
        · exact taken
        · refine .of_inactive ?_ guarded.pointed guarded.connecting quiet
          simp only [Instr.starts, Bool.true_eq_false, false_or] at starts
          simp [Driver.ordered, Instr.starts, starts, later]
    | join =>
        simp only [Node.execute, Node.join] at moved
        split at moved
        · cases moved
          exact taken
        · cases moved
          refine .of_inactive later guarded.pointed ?_ rfl
          intro c connects
          cases connects
        · cases moved
    | startThread =>
        cases moved
        simp only [Instr.starts, Bool.true_eq_false, false_or] at starts
        refine ⟨later, guarded.pointed, ?_, fun _ => closing, fun _ => deleting, fun _ => starts,
          fun _ => ?_⟩ <;>
        · intro c connects
          cases connects
    | deleteClient =>
        simp only [Node.execute] at moved
        split at moved
        · cases moved
          exact taken.of_sameConnects (beginDelete_sameConnects _ _) later quiet
        · cases moved
          exact taken
    | releaseThread =>
        cases moved
        refine .of_inactive later guarded.pointed ?_ rfl
        intro c connects
        cases connects
    | _ => exact absurd rfl passive

/-- An instruction carried out while a `connect` is pending. -/
theorem Guarded.execute_active {instr : Instr} {rest : List Instr}
    (guarded : Guarded settled s) (script : s.script = instr :: rest)
    (pending : active settled s = true)
    (moved : { s with script := rest }.execute instr = some t) : Guarded settled t := by
  have inOrder := guarded.ordered
  rw [script] at inOrder
  simp only [Driver.ordered, Bool.and_eq_true] at inOrder
  have mild := guarded.harmless pending
  rw [script] at mild
  by_cases passive : instr.passive = true
  · obtain ⟨unmoved, later⟩ := execute_passive passive moved
    have onward : Driver.harmless rest = true := by
      cases instr with
      | join => cases passive
      | _ => simpa [Driver.harmless, passive] using mild
    have taken : Guarded settled { s with script := rest } :=
      ⟨inOrder.2, guarded.pointed, guarded.connecting, guarded.closing, guarded.deleting,
        fun _ => onward, guarded.owner⟩
    refine taken.of_unmoved unmoved (by rw [later]; exact inOrder.2) fun _ => ?_
    rw [later]
    exact onward
  · cases instr with
    | join =>
        -- the thread has not finished, so the join waits
        unfold active at pending
        simp only [Node.execute, Node.join] at moved
        split at moved
        · rename_i thread
          simp [show s.connectThread = none from thread] at pending
        · rename_i thread
          simp [show s.connectThread = some .finished from thread] at pending
        · cases moved
    | _ => simp [Driver.harmless, Instr.passive] at mild passive

theorem Guarded.executorStep (guarded : Guarded settled s) (moved : s.executorStep = some t) :
    Guarded settled t := by
  rcases executorStep_cases moved with ⟨c, closing, rfl⟩ | ⟨c, -, deleting, rfl⟩ |
    ⟨instr, rest, closing, deleting, script, executed⟩
  · have inactive : active settled s = false := guarded.inactive_of_closing closing
    have same : SameConnects s (s.stepClose c) :=
      ⟨rfl, fun d => s.onClient_phase c d (by simp), rfl, rfl⟩
    exact guarded.of_sameConnects same guarded.ordered inactive
  · have inactive : active settled s = false := guarded.inactive_of_deleting deleting
    refine .of_inactive guarded.ordered ?_ guarded.connecting ?_
    · intro d points
      simp only [Node.finishDelete] at points
      split at points
      · cases points
      · exact guarded.pointed d points
    · have same : active settled (s.finishDelete c) = active settled s :=
        active_congr rfl fun d _ => by rw [Node.finishDelete_radio]
      rw [same]
      exact inactive
  · by_cases pending : active settled s = true
    · exact guarded.execute_active script pending executed
    · exact guarded.execute_inactive script (by simpa using pending) closing deleting executed

/-! ## The connect thread and the callbacks of a transport -/

/-- A settled call has nothing left to do but to return. -/
def Leaves (settled : Settled) : Prop :=
  ∀ (r : RadioClient) (succeeds : Bool), settled r.phase = true →
    (r.stepConnect succeeds).isConnecting = false

theorem Guarded.threadStep (leaves : Leaves settled) (guarded : Guarded settled s)
    {succeeds : Bool} (moved : s.threadStep succeeds = some t) : Guarded settled t := by
  rcases threadStep_cases moved with ⟨c, thread, points, rfl⟩ | ⟨c, thread, rfl⟩ | ⟨-, rfl⟩
  · have pending : active settled s = true := by simp [active, thread]
    refine ⟨guarded.ordered, guarded.pointed, ?_, fun _ => guarded.closing pending,
      fun _ => guarded.deleting pending, fun _ => guarded.harmless pending, fun _ => ?_⟩
    · intro d connects
      cases connects
      exact guarded.pointed c points
    · intro d connects
      cases connects
      exact points
  · by_cases pending : active settled s = true
    · refine ⟨guarded.ordered, guarded.pointed, ?_, fun _ => guarded.closing pending,
        fun _ => guarded.deleting pending, fun _ => guarded.harmless pending, fun _ => ?_⟩
      · intro d connects
        simp only [Option.some.injEq] at connects
        split at connects
        · cases connects
          exact guarded.connecting c thread
        · cases connects
      · intro d connects
        simp only [Option.some.injEq] at connects
        split at connects
        · cases connects
          exact guarded.owner pending c thread
        · cases connects
    · -- a settled call returns, and then nothing is pending
      have ended : settled (s.clients c).radio.phase = true := by
        simpa [active, thread] using pending
      have returned : ((s.onClient c (RadioClient.stepConnect succeeds)).clients
          c).radio.isConnecting = false := by
        rw [Node.onClient_self]
        exact leaves _ succeeds ended
      simp only [returned, Bool.false_eq_true, if_false]
      refine .of_inactive guarded.ordered guarded.pointed ?_ rfl
      intro d connects
      cases connects
  · refine .of_inactive guarded.ordered guarded.pointed ?_ rfl
    intro d connects
    cases connects

theorem Guarded.callBack (guarded : Guarded settled s) {c : Nat}
    {answer : RadioClient → Option RadioClient}
    (kept : ∀ r answered, answer r = some answered → answered.phase = r.phase)
    (moved : s.callBack c answer = some t) : Guarded settled t := by
  obtain ⟨radio, answered, rfl⟩ := callBack_cases moved
  have unmoved : Unmoved s (s.onClient c fun _ => radio) :=
    ⟨⟨rfl, fun d => s.onClient_phase c d (kept _ _ answered), rfl, rfl⟩, rfl, rfl⟩
  exact guarded.of_unmoved unmoved guarded.ordered guarded.harmless

/-! ## Runs -/

/-- One step. -/
theorem Guarded.step (leaves : Leaves settled) (guarded : Guarded settled s) {a : Node.Action}
    (allowed : Undisturbed settled s a) (moved : s.step a = some t) : Guarded settled t := by
  cases a with
  | configure config path file =>
      obtain ⟨-, rfl⟩ := configure_cases moved
      exact .of_inactive rfl guarded.pointed guarded.connecting (allowed rfl)
  | reconnect =>
      obtain ⟨-, -, rfl⟩ := reconnect_cases moved
      exact .of_inactive rfl guarded.pointed guarded.connecting (allowed rfl)
  | shutdown =>
      obtain ⟨-, rfl⟩ := shutdown_cases moved
      exact guarded.of_unmoved ⟨⟨rfl, fun _ => rfl, rfl, rfl⟩, rfl, rfl⟩ rfl fun _ => rfl
  | destruct =>
      obtain ⟨-, rfl⟩ := destruct_cases moved
      exact .of_inactive rfl guarded.pointed guarded.connecting (allowed rfl)
  | executor => exact guarded.executorStep moved
  | thread succeeds => exact guarded.threadStep leaves moved
  | connack c handle rc accepted =>
      exact guarded.callBack (fun _ _ => RadioClient.phase_connack) moved
  | dropped c handle => exact guarded.callBack (fun _ _ => RadioClient.phase_dropped) moved
  | error c =>
      obtain ⟨-, rfl⟩ := error_cases moved
      exact guarded.of_unmoved ⟨⟨rfl, fun _ => rfl, rfl, rfl⟩, rfl, rfl⟩ guarded.ordered
        guarded.harmless

theorem Guarded.of_start (settled : Settled) : Guarded settled {} := by
  refine .of_inactive rfl ?_ ?_ rfl
  · intro c points
    cases points
  · intro c connects
    cases connects

/-- Every run. -/
theorem guarded_of_reachable (leaves : Leaves settled)
    (reached : system.ReachableUnder (Undisturbed settled) s) : Guarded settled s := by
  apply reached.invariant
  · rintro _ rfl
    exact .of_start settled
  · intro u a v guarded allowed moved
    exact guarded.step leaves allowed moved

end Guard

/-! ## Close, delete or replace during `connect` -/

/-- No `connect` call counts as over before it has returned. -/
def unreturned : Settled := fun _ => false

/-- A client in a `connect` call that has not returned is not being closed or deleted, and the
node still points to it. -/
def ConnectUndisturbed (s : Node) : Prop :=
  ∀ c, s.connectThread = some (.connecting c) →
    s.closing ≠ some c ∧ s.deleting ≠ some c ∧ s.radioClient = some c

/-- **When no connect is disturbed.**  In every run in which a reconnect, a configure and the
node's destructor begin only while the connect thread neither is about to call `connect` nor
is in it, no client is closed, deleted or replaced during a `connect` call on it. -/
theorem connect_undisturbed {s : Node}
    (reached : system.ReachableUnder (Undisturbed unreturned) s) : ConnectUndisturbed s := by
  intro c connects
  have guarded : Guarded unreturned s :=
    guarded_of_reachable (fun _ _ ended => by cases ended) reached
  have pending : active unreturned s = true := by simp [active, connects, unreturned]
  rw [guarded.closing pending, guarded.deleting pending]
  exact ⟨by simp, by simp, guarded.owner pending c connects⟩

/-- A node set up for MQTT, from its construction to the end of its first configure. -/
def configureMqtt : List Node.Action :=
  .configure { protocol := "mqtt" } "share/v2x_ros_driver/etc/wave.json" (.accepted waveJson) ::
    List.replicate 11 .executor

/-- The connect thread calls `connect`, which creates a handle. -/
def callConnect : List Node.Action := [.thread true, .thread true, .thread true]

/-- The node in the middle of its first `connect`. -/
def connectingNode : Node :=
  (system.runUnder (Undisturbed unreturned) {} (configureMqtt ++ callConnect)).getD {}

theorem connectingNode_reached : system.ReachableUnder (Undisturbed unreturned) connectingNode := by
  have succeeds : (system.runUnder (Undisturbed unreturned) {}
      (configureMqtt ++ callConnect)).isSome = true := rfl
  exact System.reachableUnder_getD (.start rfl) succeeds {}

theorem first_connect_undisturbed :
    connectingNode.connectThread = some (.connecting 0) ∧ ConnectUndisturbed connectingNode :=
  ⟨rfl, connect_undisturbed connectingNode_reached⟩

/-- A reconnect in the middle of the first `connect`, up to its call of `close`. -/
def interruptConnect : List Node.Action :=
  configureMqtt ++ callConnect ++ [.reconnect, .executor]

def interruptedNode : Node := (system.run {} interruptConnect).getD {}

/-- The reconnect closes the client whose `connect` is running. -/
theorem reconnect_closes_during_connect : ¬ ∀ s, system.Reachable s → ConnectUndisturbed s := by
  intro undisturbed
  have succeeds : (system.run {} interruptConnect).isSome = true := rfl
  have reached : system.Reachable interruptedNode := System.reachable_getD (.start rfl) succeeds {}
  have connecting : interruptedNode.connectThread = some (.connecting 0) := rfl
  have closing : interruptedNode.closing = some 0 := rfl
  exact (undisturbed interruptedNode reached 0 connecting).1 closing

end V2xRosDriver.Driver
