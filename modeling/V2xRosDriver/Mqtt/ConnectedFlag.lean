/-
# Mqtt.ConnectedFlag -- `connected` and the handle it is about

One flag serves all handles of a client: any handle's callback writes it, `close` clears
it before it stops the loop, and `connect` looks at nothing else before it overwrites
`mosq`.  A second `connect` while the first handle waits for its CONNACK leaves that
handle's callbacks running behind the client's back: the flag then speaks of a handle
nobody holds, and if the second `connect` fails, of none at all.  The client is stuck,
since `connect` refuses and `close` finds nothing to close (`connected_without_handle`).

If `connect` passes its guard only without a handle, and `connect` and `close` do not
overlap while either uses the handle, the flag is sound in every state outside `close`
(`connected_sound`).  The invariant is that a looping handle is the current one and was
not destroyed, and that the handle the flag speaks of has been acknowledged (`Flagged`).
-/
import V2xRosDriver.Mqtt.Ownership

namespace V2xRosDriver.Mqtt

set_option autoImplicit false

open V2xRosDriver.Theory.Transition
open V2xRosDriver.Radio

/-! ## Runs of one client -/

/-- A client with the `connect` and the `close` running on it.  `online` tells of every handle
whether its most recent callback was a successful CONNACK, `closed` whether a `close` has
returned since the last call of `connect`. -/
structure MqttRun where
  client : MqttRadioClient
  connectAt : Option (Endpoint × ConnectPc) := none
  closeAt : Option ClosePc := none
  online : Nat → Bool := fun _ => false
  closed : Bool := false

namespace MqttRun

inductive Action where
  | connect (endpoint : Endpoint)
  | connectStep (succeeds : Bool)
  | close
  | closeStep
  | connack (handle : Nat) (rc : Int) (accepted : Bool)
  | dropped (handle : Nat)
  | send (message : List UInt8) (accepted : Bool)

/-- The current handle's most recent callback was a successful CONNACK. -/
def awaitsDisconnect (s : MqttRun) : Bool :=
  match s.client.session.mosq with
  | some h => s.online h
  | none => false

/-- Move the `connect` call that stands at `pc`. -/
def advance (s : MqttRun) (endpoint : Endpoint) (pc : ConnectPc) (succeeds : Bool) : MqttRun :=
  let stepped := s.client.connectStep endpoint pc succeeds
  { s with client := stepped.1, connectAt := stepped.2.pc?.map (endpoint, ·) }

/-- One step.  A call of `connect` begins with its guard, and of `connect` and of `close` only one
call at a time is on its way: the driver joins its connect thread before it makes another, and
has one closer.  `mosquitto_loop_stop` returns only after the disconnect callback that belongs
to a successful CONNACK. -/
def step (s : MqttRun) : Action → Option MqttRun
  | .connect endpoint =>
      match s.connectAt with
      | some _ => none
      | none => some { s.advance endpoint .guard true with closed := false }
  | .connectStep succeeds =>
      match s.connectAt with
      | none => none
      | some (endpoint, pc) =>
          if pc = .abortLoopStop ∧ s.awaitsDisconnect then none
          else some (s.advance endpoint pc succeeds)
  | .close =>
      match s.closeAt with
      | some _ => none
      | none => some { s with closeAt := some .check }
  | .closeStep =>
      match s.closeAt with
      | none => none
      | some pc =>
          if pc = .loopStop ∧ s.awaitsDisconnect then none
          else
            let stepped := s.client.closeStep pc
            some { s with
              client := stepped.1
              closeAt := stepped.2.pc?
              closed := s.closed || stepped.2.pc?.isNone }
  | .connack h rc accepted =>
      if (s.client.session.handles h).looping then
        some { s with
          client := s.client.handleConnect rc accepted
          online := Function.update s.online h (rc = 0) }
      else none
  | .dropped h =>
      if (s.client.session.handles h).looping then
        some { s with
          client := s.client.handleDisconnect
          online := Function.update s.online h false }
      else none
  | .send _ _ => some s

/-- A client without a handle, and nothing running on it. -/
def Fresh (s : MqttRun) : Prop := ∃ client : MqttRadioClient,
  client.session = {} ∧ s = { client := client }

/-- The order the driver would have to keep: a `connect` that finds the client not connected
also finds it without a handle and no `close` running, `close` waits until `connect` has let
go of the handle.  A CONNACK that reports failure comes to no handle that is connected. -/
def Sequenced (s : MqttRun) : Action → Prop
  | .connect _ => s.client.session.connected = false →
      s.client.session.mosq = none ∧ s.closeAt = none
  | .close => ConnectPc.done (s.connectAt.map (·.2)) = true
  | .connack h rc _ => rc ≠ 0 → s.online h = false
  | _ => True

instance (s : MqttRun) : (a : Action) → Decidable (s.Sequenced a)
  | .connect _ => inferInstanceAs (Decidable (_ → _ ∧ _))
  | .close => inferInstanceAs (Decidable (_ = _))
  | .connack _ _ _ => inferInstanceAs (Decidable (_ → _))
  | .connectStep _ | .closeStep | .dropped _ | .send _ _ => inferInstanceAs (Decidable True)

/-- Outside `close`, a connected client has a handle whose most recent callback was a
successful CONNACK; a closed client is not connected until the next `connect`; no client is
connected without a handle. -/
structure Sound (s : MqttRun) : Prop where
  live : s.closeAt = none → s.client.session.connected = true →
    ∃ h, s.client.session.mosq = some h ∧ s.online h = true
  closed : s.closed = true → s.client.session.connected = false
  unstuck : s.closeAt = none → s.client.session.mosq = none →
    s.client.session.connected = false

end MqttRun

/-- A client under every interleaving of its calls and its callbacks. -/
def mqttRuns : System MqttRun MqttRun.Action where
  start := MqttRun.Fresh
  step := MqttRun.step

/-! ## The invariant of a session -/

/-- The points of `connect` and `close` at which the handle's loop thread is not running. -/
def Halted (connectAt : Option ConnectPc) (closeAt : Option ClosePc) : Prop :=
  connectAt = some .loopStart ∨ connectAt = some .abortDestroy ∨ connectAt = some .abortClear ∨
    closeAt = some .destroy ∨ closeAt = some .clear

/-- Looping handles are alive, acknowledged handles are looping, and the flag speaks of an
acknowledged handle. -/
structure Flagged (s : MqttSession) (online : Nat → Bool) : Prop where
  alive : ∀ h, (s.handles h).looping = true → h < s.created ∧ (s.handles h).destroys = 0
  looping : ∀ h, online h = true → (s.handles h).looping = true
  flag : s.connected = true → ∃ h, s.mosq = some h ∧ online h = true

/-- The loop thread of the current handle is not running. -/
def Still (s : MqttSession) : Prop := ∀ h, s.mosq = some h → (s.handles h).looping = false

namespace Flagged

variable {s : MqttSession} {online : Nat → Bool}

/-- A handle whose loop has stopped is not acknowledged, so the flag is down. -/
theorem offline (flagged : Flagged s online) (still : Still s) : s.connected = false := by
  rw [Bool.eq_false_iff]
  intro connected
  obtain ⟨h, points, acknowledged⟩ := flagged.flag connected
  have runs := flagged.looping h acknowledged
  rw [still h points] at runs
  cases runs

/-- A call on the current handle.  Behind it a loop runs only on a handle that can be used, and
it does run where a CONNACK was received. -/
theorem onHandle (flagged : Flagged s online) {call : Mosquitto → Mosquitto}
    (usable : ∀ h, s.mosq = some h → (call (s.handles h)).looping = true →
      h < s.created ∧ (call (s.handles h)).destroys = 0)
    (runs : ∀ h, s.mosq = some h → online h = true → (call (s.handles h)).looping = true) :
    Flagged (s.onHandle call) online where
  alive h looping := by
    rw [onHandle_handles] at looping ⊢
    rw [onHandle_created]
    split at looping
    · rename_i points
      rw [if_pos points]
      exact usable h points looping
    · rename_i other
      rw [if_neg other]
      exact flagged.alive h looping
  looping h acknowledged := by
    rw [onHandle_handles]
    split
    · rename_i points
      exact runs h points acknowledged
    · exact flagged.looping h acknowledged
  flag connected := by
    rw [onHandle_connected] at connected
    rw [onHandle_mosq]
    exact flagged.flag connected

/-- A call that neither starts, stops nor destroys. -/
theorem onHandle_mild (flagged : Flagged s online) {call : Mosquitto → Mosquitto}
    (loops : ∀ handle, (call handle).looping = handle.looping)
    (lives : ∀ handle, (call handle).destroys = handle.destroys) :
    Flagged (s.onHandle call) online := by
  apply flagged.onHandle
  · intro h _ looping
    rw [loops] at looping
    rw [lives]
    exact flagged.alive h looping
  · intro h _ acknowledged
    rw [loops]
    exact flagged.looping h acknowledged

theorem mosquittoNew (flagged : Flagged s online) (cleared : s.mosq = none) :
    Flagged (s.mosquittoNew true) online := by
  rw [MqttSession.mosquittoNew, if_pos rfl]
  refine ⟨?_, ?_, ?_⟩
  · intro h runs
    by_cases new : h = s.created
    · subst new
      simp at runs
    · simp only [Function.update_of_ne new] at runs ⊢
      obtain ⟨below, lives⟩ := flagged.alive h runs
      exact ⟨by omega, lives⟩
  · intro h acknowledged
    have runs := flagged.looping h acknowledged
    have old : h ≠ s.created := by
      have below := (flagged.alive h runs).1
      omega
    simpa only [Function.update_of_ne old] using runs
  · intro connected
    obtain ⟨h, points, -⟩ := flagged.flag connected
    rw [cleared] at points
    cases points

theorem loopStart (flagged : Flagged s online)
    (usable : ∀ h, s.mosq = some h → h < s.created ∧ (s.handles h).destroys = 0) :
    Flagged s.loopStart online := by
  rw [MqttSession.loopStart]
  apply flagged.onHandle
  · exact fun h points _ => usable h points
  · exact fun _ _ _ => rfl

/-- The loop stops once nobody waits for the handle's disconnect. -/
theorem loopStop (flagged : Flagged s online) (quiet : ∀ h, s.mosq = some h → online h = false) :
    Flagged s.loopStop online := by
  rw [MqttSession.loopStop]
  apply flagged.onHandle
  · intro h _ looping
    cases looping
  · intro h points acknowledged
    rw [quiet h points] at acknowledged
    cases acknowledged

theorem still_loopStop (s : MqttSession) : Still s.loopStop := by
  intro h points
  rw [MqttSession.loopStop, onHandle_mosq] at points
  rw [MqttSession.loopStop, onHandle_handles, if_pos points]

theorem destroy (flagged : Flagged s online) (still : Still s) : Flagged s.destroy online := by
  rw [MqttSession.destroy]
  apply flagged.onHandle
  · intro h points looping
    have halted : (s.handles h).looping = false := still h points
    rw [show (s.handles h).looping = true from looping] at halted
    cases halted
  · exact fun h _ acknowledged => flagged.looping h acknowledged

theorem still_destroy (still : Still s) : Still s.destroy := by
  intro h points
  rw [MqttSession.destroy, onHandle_mosq] at points
  rw [MqttSession.destroy, onHandle_handles, if_pos points]
  exact still h points

theorem clear (flagged : Flagged s online) (still : Still s) :
    Flagged { s with mosq := none } online :=
  ⟨flagged.alive, flagged.looping, fun connected => by
    rw [flagged.offline still] at connected
    cases connected⟩

/-- A callback of a looping handle, which is the current one. -/
theorem connack (flagged : Flagged s online) {h : Nat} (points : s.mosq = some h)
    (runs : (s.handles h).looping = true) :
    Flagged { s with connected := true } (Function.update online h true) where
  alive := flagged.alive
  looping k acknowledged := by
    by_cases same : k = h
    · subst same
      exact runs
    · rw [Function.update_of_ne same] at acknowledged
      exact flagged.looping k acknowledged
  flag _ := ⟨h, points, Function.update_self ..⟩

theorem dropped (flagged : Flagged s online) (h : Nat) :
    Flagged { s with connected := false } (Function.update online h false) where
  alive := flagged.alive
  looping k acknowledged := by
    by_cases same : k = h
    · subst same
      rw [Function.update_self] at acknowledged
      cases acknowledged
    · rw [Function.update_of_ne same] at acknowledged
      exact flagged.looping k acknowledged
  flag connected := by cases connected

end Flagged

/-! ## The steps of `connect` and `close` -/

/-- The invariant of a session, with a `connect` at `connectAt` and a `close` at `closeAt`. -/
structure FlagKept (s : MqttSession) (connectAt : Option ConnectPc) (closeAt : Option ClosePc)
    (online : Nat → Bool) : Prop where
  owned : Owned s connectAt closeAt
  flagged : Flagged s online
  still : Halted connectAt closeAt → Still s

namespace FlagKept

variable {s : MqttSession} {connectAt : Option ConnectPc} {closeAt : Option ClosePc}
  {online : Nat → Bool}

theorem fresh : FlagKept {} none none fun _ => false where
  owned := .fresh
  flagged := ⟨(nofun), (nofun), (nofun)⟩
  still _ _ points := by cases points

/-- The current handle can be used while nothing has destroyed it. -/
theorem usable (kept : FlagKept s connectAt closeAt online) (steady : ¬ Dangling connectAt closeAt)
    (h : Nat) (points : s.mosq = some h) : h < s.created ∧ (s.handles h).destroys = 0 := by
  have below := kept.owned.valid h points
  have atMost := kept.owned.once h below
  have lives : (s.handles h).destroys ≠ 1 := fun dead =>
    steady ((kept.owned.dangling h points).mp dead)
  exact ⟨below, by omega⟩

/-- A looping handle is the current one. -/
theorem current (kept : FlagKept s connectAt closeAt online) {h : Nat}
    (runs : (s.handles h).looping = true) : s.mosq = some h := by
  obtain ⟨below, lives⟩ := kept.flagged.alive h runs
  exact kept.owned.live h below lives

/-- `close` is away until `connect` has let go of the handle. -/
theorem alone {pc : ConnectPc} (kept : FlagKept s (some pc) closeAt online)
    (working : ConnectPc.done (some pc) = false) : closeAt = none := by
  by_contra closes
  have finished := kept.owned.apart closes
  rw [working] at finished
  cases finished

theorem connectStep_flagged {pc : ConnectPc} (kept : FlagKept s (some pc) closeAt online)
    (endpoint : Endpoint) (succeeds : Bool)
    (quiet : pc = .abortLoopStop → ∀ h, s.mosq = some h → online h = false) :
    Flagged (Mqtt.connectStep endpoint s pc succeeds).1 online := by
  have flagged := kept.flagged
  cases pc with
  | guard =>
      simp only [Mqtt.connectStep]
      split
      · exact flagged
      · exact ⟨flagged.alive, flagged.looping, flagged.flag⟩
  | create =>
      have cleared := kept.owned.early rfl
      cases succeeds with
      | true => exact flagged.mosquittoNew cleared
      | false =>
          refine ⟨flagged.alive, flagged.looping, fun connected => ?_⟩
          obtain ⟨h, points, -⟩ := flagged.flag connected
          rw [cleared] at points
          cases points
  | loopStart =>
      simp only [Mqtt.connectStep]
      split
      · exact flagged.loopStart (kept.usable (by simp [Dangling, kept.alone rfl]))
      · exact flagged
  | initiate =>
      simp only [Mqtt.connectStep]
      split
      · show Flagged s.initiate online
        rw [MqttSession.initiate]
        apply flagged.onHandle_mild
        · exact fun _ => rfl
        · exact fun _ => rfl
      · exact flagged
  | leave => exact flagged
  | abortLoopStop => exact flagged.loopStop (quiet rfl)
  | abortDestroy => exact flagged.destroy (kept.still (by simp [Halted]))
  | abortClear => exact flagged.clear (kept.still (by simp [Halted]))

theorem connectStep_still {pc : ConnectPc} (kept : FlagKept s (some pc) closeAt online)
    (endpoint : Endpoint) (succeeds : Bool)
    (halted : Halted (Mqtt.connectStep endpoint s pc succeeds).2.pc? closeAt) :
    Still (Mqtt.connectStep endpoint s pc succeeds).1 := by
  cases pc with
  | leave => exact kept.still (Or.inr (Or.inr (Or.inr (by simpa [Halted, Mqtt.connectStep,
      Progress.pc?] using halted))))
  | abortLoopStop => exact Flagged.still_loopStop s
  | abortDestroy => exact Flagged.still_destroy (kept.still (by simp [Halted]))
  | abortClear => exact fun _ points => by cases points
  | create =>
      cases succeeds with
      | true =>
          intro h points
          simp only [Mqtt.connectStep, MqttSession.mosquittoNew, if_true,
            Option.some.injEq] at points ⊢
          subst points
          simp
      | false => exact fun _ points => by cases points
  | guard =>
      -- the next point is `create`, if there is one
      have away := kept.alone rfl
      simp only [Mqtt.connectStep] at halted
      split at halted <;> simp [Halted, Progress.pc?, away] at halted
  | loopStart =>
      simp only [Mqtt.connectStep] at halted ⊢
      split at halted
      · simp [Halted, Progress.pc?, kept.alone rfl] at halted
      · rename_i fails
        rw [if_neg fails]
        exact kept.still (by simp [Halted])
  | initiate =>
      have away := kept.alone rfl
      simp only [Mqtt.connectStep] at halted
      split at halted <;> simp [Halted, Progress.pc?, away] at halted

/-- One step of `connect`. -/
theorem connectStep {pc : ConnectPc} (kept : FlagKept s (some pc) closeAt online)
    (endpoint : Endpoint) (succeeds : Bool)
    (quiet : pc = .abortLoopStop → ∀ h, s.mosq = some h → online h = false) :
    FlagKept (Mqtt.connectStep endpoint s pc succeeds).1
      (Mqtt.connectStep endpoint s pc succeeds).2.pc? closeAt online where
  owned := kept.owned.connectStep endpoint succeeds
  flagged := kept.connectStep_flagged endpoint succeeds quiet
  still := kept.connectStep_still endpoint succeeds

/-- A `connect` that is called without a handle, with its guard. -/
theorem beginConnect (kept : FlagKept s none none online) (cleared : s.mosq = none) :
    FlagKept s (some .guard) none online where
  owned := kept.owned.beginConnect cleared
  flagged := kept.flagged
  still halted := by simp [Halted] at halted

theorem beginClose (kept : FlagKept s connectAt none online)
    (done : ConnectPc.done connectAt = true) : FlagKept s connectAt (some .check) online where
  owned := kept.owned.beginClose done
  flagged := kept.flagged
  still halted := by
    apply kept.still
    simpa [Halted] using halted

/-- One step of `close`. -/
theorem closeStep {pc : ClosePc} (kept : FlagKept s connectAt (some pc) online)
    (quiet : pc = .loopStop → ∀ h, s.mosq = some h → online h = false) :
    FlagKept (Mqtt.closeStep s pc).1 connectAt (Mqtt.closeStep s pc).2.pc? online := by
  have done : ConnectPc.done connectAt = true := kept.owned.apart (by simp)
  have letGo : ∀ {next : Option ClosePc}, next ≠ some .destroy → next ≠ some .clear →
      ¬ Halted connectAt next := by
    intro next notDestroy notClear halted
    rcases halted with rfl | rfl | rfl | closes | closes
    · cases done
    · cases done
    · cases done
    · exact notDestroy closes
    · exact notClear closes
  refine ⟨kept.owned.closeStep, ?_, ?_⟩
  · have flagged := kept.flagged
    cases pc with
    | check =>
        simp only [Mqtt.closeStep]
        split <;> exact flagged
    | unsetConnected =>
        exact ⟨flagged.alive, flagged.looping, fun connected => by cases connected⟩
    | disconnect => exact flagged
    | loopStop => exact flagged.loopStop (quiet rfl)
    | destroy => exact flagged.destroy (kept.still (by simp [Halted]))
    | clear => exact flagged.clear (kept.still (by simp [Halted]))
    | signal => exact flagged
  · cases pc with
    | check =>
        simp only [Mqtt.closeStep]
        split
        · exact fun halted => absurd halted (letGo (by simp [Progress.pc?])
            (by simp [Progress.pc?]))
        · exact fun halted => absurd halted (letGo (by simp [Progress.pc?])
            (by simp [Progress.pc?]))
    | loopStop => exact fun _ => Flagged.still_loopStop s
    | destroy => exact fun _ => Flagged.still_destroy (kept.still (by simp [Halted]))
    | clear => exact fun _ _ points => by cases points
    | unsetConnected | disconnect | signal =>
        exact fun halted => absurd halted (letGo (by simp [Mqtt.closeStep, Progress.pc?])
          (by simp [Mqtt.closeStep, Progress.pc?]))

/-- A library call that neither starts, stops nor destroys. -/
theorem onHandle_mild (kept : FlagKept s connectAt closeAt online) {call : Mosquitto → Mosquitto}
    (loops : ∀ handle, (call handle).looping = handle.looping)
    (lives : ∀ handle, (call handle).destroys = handle.destroys) :
    FlagKept (s.onHandle call) connectAt closeAt online where
  owned := kept.owned.congr (onHandle_mosq s call) (onHandle_created s call)
    (onHandle_destroys s lives)
  flagged := kept.flagged.onHandle_mild loops lives
  still halted h points := by
    rw [onHandle_mosq] at points
    rw [onHandle_handles, if_pos points, loops]
    exact kept.still halted h points

/-- A CONNACK of a looping handle that reports success. -/
theorem connack {c : MqttRadioClient} (kept : FlagKept c.session connectAt closeAt online)
    {h : Nat} (runs : (c.session.handles h).looping = true) (accepted : Bool) :
    FlagKept (c.handleConnect 0 accepted).session connectAt closeAt
      (Function.update online h true) := by
  have told : FlagKept { c.session with connected := true } connectAt closeAt
      (Function.update online h true) :=
    ⟨kept.owned.congr rfl rfl fun _ => rfl, kept.flagged.connack (kept.current runs) runs,
      kept.still⟩
  cases accepted with
  | true =>
      show FlagKept (({ c.session with connected := true } : MqttSession).onHandle fun handle =>
        { handle with filters := handle.filters ++ [c.buildSubscribeTopic] }) _ _ _
      apply told.onHandle_mild
      · exact fun _ => rfl
      · exact fun _ => rfl
  | false => exact told

theorem dropped {c : MqttRadioClient} (kept : FlagKept c.session connectAt closeAt online)
    (h : Nat) : FlagKept c.handleDisconnect.session connectAt closeAt
      (Function.update online h false) where
  owned := kept.owned.handleDisconnect
  flagged := kept.flagged.dropped h
  still := kept.still

end FlagKept

/-! ## Runs -/

namespace MqttRun

/-- The invariant of a run: that of its session, and that a closed client has no handle. -/
structure Kept (s : MqttRun) : Prop where
  session : FlagKept s.client.session (s.connectAt.map (·.2)) s.closeAt s.online
  closed : s.closed = true →
    s.client.session.mosq = none ∧ ConnectPc.done (s.connectAt.map (·.2)) = true

variable {s t : MqttRun}

theorem Kept.sound (kept : s.Kept) : s.Sound := by
  have down (cleared : s.client.session.mosq = none) : s.client.session.connected = false := by
    rw [Bool.eq_false_iff]
    intro connected
    obtain ⟨h, points, -⟩ := kept.session.flagged.flag connected
    rw [cleared] at points
    cases points
  exact ⟨fun _ => kept.session.flagged.flag, fun closed => down (kept.closed closed).1,
    fun _ => down⟩

/-- Nobody waits for the disconnect of the current handle. -/
theorem quiet_of_not_awaits {Here : Prop} (goes : ¬ (Here ∧ s.awaitsDisconnect = true))
    (here : Here) (h : Nat) (points : s.client.session.mosq = some h) : s.online h = false := by
  have quiet : ¬ s.awaitsDisconnect = true := fun waits => goes ⟨here, waits⟩
  rw [awaitsDisconnect, points] at quiet
  exact Bool.eq_false_iff.mpr quiet

theorem pc_map (endpoint : Endpoint) (progress : Progress ConnectPc ConnectResult) :
    ((progress.pc?.map (endpoint, ·)).map (·.2) : Option ConnectPc) = progress.pc? := by
  cases progress <;> rfl

/-- Moving `connect` on. -/
theorem Kept.advance {endpoint : Endpoint} {pc : ConnectPc} {succeeds : Bool}
    (session : FlagKept s.client.session (some pc) s.closeAt s.online)
    (quiet : pc = .abortLoopStop → ∀ h, s.client.session.mosq = some h → s.online h = false) :
    FlagKept (s.advance endpoint pc succeeds).client.session
      ((s.advance endpoint pc succeeds).connectAt.map (·.2)) s.closeAt s.online := by
  have moved := session.connectStep endpoint succeeds quiet
  show FlagKept (Mqtt.connectStep endpoint s.client.session pc succeeds).1
    (((Mqtt.connectStep endpoint s.client.session pc succeeds).2.pc?.map (endpoint, ·)).map (·.2))
    s.closeAt s.online
  rw [pc_map]
  exact moved

theorem Kept.connect (kept : s.Kept) {endpoint : Endpoint}
    (allowed : s.Sequenced (.connect endpoint)) (taken : s.step (.connect endpoint) = some t) :
    t.Kept := by
  simp only [step] at taken
  split at taken
  · cases taken
  · rename_i away
    cases taken
    refine ⟨?_, by simp⟩
    have session := kept.session
    rw [away] at session
    cases connected : s.client.session.connected with
    | true =>
        -- the guard refuses
        have refused : Mqtt.connectStep endpoint s.client.session .guard true =
            (s.client.session, .returned (.error .alreadyConnected)) := by
          simp only [Mqtt.connectStep, connected, if_true]
        show FlagKept (Mqtt.connectStep endpoint s.client.session .guard true).1
          (((Mqtt.connectStep endpoint s.client.session .guard true).2.pc?.map
            (endpoint, ·)).map (·.2)) s.closeAt s.online
        rw [refused]
        exact session
    | false =>
        obtain ⟨cleared, alone⟩ := allowed connected
        rw [alone] at session
        have begun := session.beginConnect cleared
        rw [← alone] at begun
        show FlagKept (s.advance endpoint .guard true).client.session
          ((s.advance endpoint .guard true).connectAt.map (·.2)) s.closeAt s.online
        exact Kept.advance begun (by simp)

theorem Kept.connectStep (kept : s.Kept) {succeeds : Bool}
    (taken : s.step (.connectStep succeeds) = some t) : t.Kept := by
  simp only [step] at taken
  split at taken
  · cases taken
  · rename_i endpoint pc here
    split at taken
    · cases taken
    · rename_i goes
      cases taken
      have session := kept.session
      rw [here] at session
      refine ⟨Kept.advance session (quiet_of_not_awaits goes), fun closed => ?_⟩
      obtain ⟨cleared, done⟩ := kept.closed closed
      rw [here] at done
      have leaving : pc = .leave := by cases pc <;> first | rfl | cases done
      subst leaving
      exact ⟨cleared, rfl⟩

theorem Kept.close (kept : s.Kept) (allowed : s.Sequenced .close)
    (taken : s.step .close = some t) : t.Kept := by
  simp only [step] at taken
  split at taken
  · cases taken
  · rename_i away
    cases taken
    have session := kept.session
    rw [away] at session
    exact ⟨session.beginClose allowed, kept.closed⟩

/-- `close` never makes a handle. -/
theorem closeStep_cleared {session : MqttSession} (cleared : session.mosq = none) (pc : ClosePc) :
    (Mqtt.closeStep session pc).1.mosq = none := by
  cases pc with
  | check =>
      simp only [Mqtt.closeStep]
      split <;> exact cleared
  | loopStop | destroy => exact (onHandle_mosq session _).trans cleared
  | clear => rfl
  | unsetConnected | disconnect | signal => exact cleared

theorem Kept.closeStep (kept : s.Kept) (taken : s.step .closeStep = some t) : t.Kept := by
  simp only [step] at taken
  split at taken
  · cases taken
  · rename_i pc here
    split at taken
    · cases taken
    · rename_i goes
      cases taken
      have session := kept.session
      rw [here] at session
      refine ⟨session.closeStep (quiet_of_not_awaits goes), fun closed => ?_⟩
      have done : ConnectPc.done (s.connectAt.map (·.2)) = true := session.owned.apart (by simp)
      refine ⟨?_, done⟩
      rcases Bool.or_eq_true_iff.mp closed with before | returned
      · exact closeStep_cleared (kept.closed before).1 pc
      · exact session.owned.closeStep_returned (Option.isNone_iff_eq_none.mp returned)

theorem Kept.connack (kept : s.Kept) {h : Nat} {rc : Int} {accepted : Bool}
    (allowed : s.Sequenced (.connack h rc accepted))
    (taken : s.step (.connack h rc accepted) = some t) : t.Kept := by
  simp only [step, Option.ite_none_right_eq_some, Option.some.injEq] at taken
  obtain ⟨runs, rfl⟩ := taken
  by_cases success : rc = 0
  · subst success
    refine ⟨by simpa using kept.session.connack runs accepted, fun closed => ?_⟩
    have points := kept.session.current runs
    rw [(kept.closed closed).1] at points
    cases points
  · have quiet : Function.update s.online h false = s.online := by
      rw [← allowed success, Function.update_eq_self]
    have unchanged : s.client.handleConnect rc accepted = s.client := if_neg success
    refine ⟨?_, ?_⟩
    · simpa only [success, decide_false, quiet, unchanged] using kept.session
    · simpa only [unchanged] using kept.closed

theorem Kept.dropped (kept : s.Kept) {h : Nat} (taken : s.step (.dropped h) = some t) :
    t.Kept := by
  simp only [step, Option.ite_none_right_eq_some, Option.some.injEq] at taken
  obtain ⟨-, rfl⟩ := taken
  exact ⟨kept.session.dropped h, kept.closed⟩

/-- Every step in the right order keeps the invariant. -/
theorem Kept.step {a : Action} (kept : s.Kept) (allowed : s.Sequenced a)
    (taken : s.step a = some t) : t.Kept := by
  cases a with
  | connect endpoint => exact kept.connect allowed taken
  | connectStep succeeds => exact kept.connectStep taken
  | close => exact kept.close allowed taken
  | closeStep => exact kept.closeStep taken
  | connack h rc accepted => exact kept.connack allowed taken
  | dropped h => exact kept.dropped taken
  | send message accepted =>
      cases taken
      exact kept

theorem kept_of_reachable (reached : mqttRuns.ReachableUnder Sequenced s) : s.Kept := by
  refine reached.invariant ?_ fun _ _ _ kept allowed taken => kept.step allowed taken
  rintro s ⟨client, session, rfl⟩
  refine ⟨?_, nofun⟩
  show FlagKept client.session none none fun _ => false
  rw [session]
  exact FlagKept.fresh

/-- **The flag is sound.**  In every state of every run in which `connect` and `close` keep
their order, outside `close` a connected client holds a handle whose most recent callback was
a successful CONNACK, a closed client stays disconnected until the next `connect`, and no
client is connected without a handle. -/
theorem connected_sound (reached : mqttRuns.ReachableUnder Sequenced s) : s.Sound :=
  (kept_of_reachable reached).sound

/-- A client as its constructor leaves it. -/
def newClient : MqttRun := { client := {} }

theorem newClient_fresh : mqttRuns.start newClient := ⟨{}, rfl, rfl⟩

/-- A `connect` whose library calls all succeed. -/
def connecting : List Action :=
  [.connect ⟨"localhost", 1883, 0⟩, .connectStep true, .connectStep true, .connectStep true,
    .connectStep true]

/-- A client that has connected and been acknowledged. -/
def acknowledgedClient : MqttRun :=
  (mqttRuns.runUnder Sequenced newClient (connecting ++ [.connack 0 0 true])).getD newClient

theorem acknowledgedClient_sound :
    acknowledgedClient.Sound ∧ acknowledgedClient.client.session.connected = true :=
  ⟨connected_sound (System.reachableUnder_getD (.start newClient_fresh) rfl _), rfl⟩

/-- A second `connect` begins before the first handle's CONNACK; that comes while the second is
under way, and then `mosquitto_loop_start` fails. -/
def stuckClient : MqttRun :=
  (mqttRuns.run newClient (connecting ++
    [.connect ⟨"localhost", 1883, 0⟩, .connectStep true, .connack 0 0 true, .connectStep false,
      .connectStep true, .connectStep true])).getD newClient

/-- Connected without a handle: nothing runs on the client, `connect` is refused, and `close`
returns at its first step and leaves the flag up. -/
theorem connected_without_handle :
    mqttRuns.Reachable stuckClient ∧ stuckClient.connectAt = none ∧ stuckClient.closeAt = none ∧
      stuckClient.client.session.mosq = none ∧ stuckClient.client.session.connected = true ∧
      (stuckClient.client.connectStep ⟨"localhost", 1883, 0⟩ .guard true).2 =
        .returned (.error .alreadyConnected) ∧
      (stuckClient.client.closeStep .check).2 = .returned () ∧ ¬ stuckClient.Sound := by
  refine ⟨System.reachable_getD (.start newClient_fresh) rfl _, rfl, rfl, rfl, rfl, rfl, rfl, ?_⟩
  intro sound
  exact absurd (sound.unstuck rfl rfl) (by decide)

end MqttRun

end V2xRosDriver.Mqtt
