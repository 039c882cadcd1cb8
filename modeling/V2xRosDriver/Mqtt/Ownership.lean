/-
# Mqtt.Ownership -- the handles of a client and the steps of `connect` and `close`

A client owns its handles well when the only one alive is `mosq`, none was destroyed
twice, and `mosq` points to a destroyed one only between `mosquitto_destroy` and the write
behind it (`Owned`).  `connect` keeps that if it starts without a handle and `close` stays
away while it uses one; `close` keeps it if `connect` stays away.  Nothing else touches
`mosq`.
-/
import V2xRosDriver.Mqtt.MqttRadioClient

namespace V2xRosDriver.Mqtt

set_option autoImplicit false

open V2xRosDriver.Theory.Transition
open V2xRosDriver.Radio

/-- The program points of `connect` from which it no longer touches `mosq`. -/
def ConnectPc.done : Option ConnectPc → Bool
  | none | some .leave => true
  | _ => false

/-- The points at which `connect` has yet to create its handle. -/
def ConnectPc.early : Option ConnectPc → Bool
  | some .guard | some .create => true
  | _ => false

/-- `mosq` has been destroyed and is still to be cleared. -/
def Dangling (connectAt : Option ConnectPc) (closeAt : Option ClosePc) : Prop :=
  connectAt = some .abortClear ∨ closeAt = some .clear

/-- The handles of a client in good order, with a `connect` at `connectAt` and a `close` at
`closeAt`. -/
structure Owned (s : MqttSession) (connectAt : Option ConnectPc) (closeAt : Option ClosePc) :
    Prop where
  valid : ∀ h, s.mosq = some h → h < s.created
  live : ∀ h < s.created, (s.handles h).destroys = 0 → s.mosq = some h
  once : ∀ h < s.created, (s.handles h).destroys ≤ 1
  dangling : ∀ h, s.mosq = some h → ((s.handles h).destroys = 1 ↔ Dangling connectAt closeAt)
  early : ConnectPc.early connectAt = true → s.mosq = none
  apart : closeAt ≠ none → ConnectPc.done connectAt = true
  signal : closeAt = some .signal → s.mosq = none

namespace Owned

variable {s t : MqttSession} {connectAt : Option ConnectPc} {closeAt : Option ClosePc}

/-- A session that never had a handle. -/
theorem fresh : Owned {} none none where
  valid _ points := by cases points
  live _ below := absurd below (Nat.not_lt_zero _)
  once _ below := absurd below (Nat.not_lt_zero _)
  dangling _ points := by cases points
  early before := by cases before
  apart _ := rfl
  signal _ := rfl

/-- What is left when no handle is current: every handle was destroyed once. -/
theorem destroyed (owned : Owned s connectAt closeAt) (cleared : s.mosq = none) :
    ∀ h < s.created, (s.handles h).destroys = 1 := by
  intro h below
  have atMost := owned.once h below
  by_contra other
  have alive : (s.handles h).destroys = 0 := by omega
  rw [owned.live h below alive] at cleared
  cases cleared

/-- `mosq`, the number of handles and their destructions are all that counts of a session. -/
theorem congr (owned : Owned s connectAt closeAt) (mosq : t.mosq = s.mosq)
    (created : t.created = s.created)
    (destroys : ∀ h, (t.handles h).destroys = (s.handles h).destroys) :
    Owned t connectAt closeAt := by
  obtain ⟨valid, live, once, dangling, early, apart, signal⟩ := owned
  refine ⟨?_, ?_, ?_, ?_, ?_, apart, ?_⟩ <;> simp only [mosq, created, destroys] <;> assumption

end Owned

/-! ## Library calls -/

theorem onHandle_handles (s : MqttSession) (call : Mosquitto → Mosquitto) (h : Nat) :
    (s.onHandle call).handles h = if s.mosq = some h then call (s.handles h) else s.handles h := by
  rw [MqttSession.onHandle]
  cases points : s.mosq with
  | none => simp
  | some k =>
      by_cases same : h = k
      · subst same
        simp
      · simp [same, eq_comm]

theorem onHandle_destroys (s : MqttSession) {call : Mosquitto → Mosquitto}
    (kept : ∀ handle, (call handle).destroys = handle.destroys) (h : Nat) :
    ((s.onHandle call).handles h).destroys = (s.handles h).destroys := by
  rw [onHandle_handles]
  split
  · exact kept _
  · rfl

theorem onHandle_mosq (s : MqttSession) (call : Mosquitto → Mosquitto) :
    (s.onHandle call).mosq = s.mosq := by
  unfold MqttSession.onHandle
  cases points : s.mosq with
  | none => exact points
  | some k => rfl

theorem onHandle_connected (s : MqttSession) (call : Mosquitto → Mosquitto) :
    (s.onHandle call).connected = s.connected := by
  rw [MqttSession.onHandle]
  cases s.mosq <;> rfl

/-- `connect` never touches the flag it is guarded by. -/
theorem connectStep_connected (endpoint : Endpoint) (s : MqttSession) (pc : ConnectPc)
    (succeeds : Bool) : (connectStep endpoint s pc succeeds).1.connected = s.connected := by
  cases pc with
  | guard =>
      simp only [connectStep]
      split <;> rfl
  | create => cases succeeds <;> rfl
  | loopStart =>
      simp only [connectStep]
      split
      · exact onHandle_connected s _
      · rfl
  | initiate =>
      simp only [connectStep]
      split
      · exact onHandle_connected s _
      · rfl
  | leave => rfl
  | abortLoopStop => exact onHandle_connected s _
  | abortDestroy => exact onHandle_connected s _
  | abortClear => rfl

theorem onHandle_created (s : MqttSession) (call : Mosquitto → Mosquitto) :
    (s.onHandle call).created = s.created := by
  unfold MqttSession.onHandle
  cases s.mosq <;> rfl

namespace Owned

variable {s t : MqttSession} {connectAt connectAt' : Option ConnectPc}
  {closeAt closeAt' : Option ClosePc}

/-- Any library call but `mosquitto_destroy`. -/
theorem onHandle (owned : Owned s connectAt closeAt) {call : Mosquitto → Mosquitto}
    (kept : ∀ handle, (call handle).destroys = handle.destroys) :
    Owned (s.onHandle call) connectAt closeAt :=
  owned.congr (onHandle_mosq s call) (onHandle_created s call) (onHandle_destroys s kept)

/-- The calls go on, the session stays. -/
theorem move (owned : Owned s connectAt closeAt)
    (same : Dangling connectAt' closeAt' ↔ Dangling connectAt closeAt)
    (early : ConnectPc.early connectAt' = true → s.mosq = none)
    (apart : closeAt' ≠ none → ConnectPc.done connectAt' = true)
    (signal : closeAt' = some .signal → s.mosq = none) : Owned s connectAt' closeAt' where
  valid := owned.valid
  live := owned.live
  once := owned.once
  dangling h points := by rw [same]; exact owned.dangling h points
  early := early
  apart := apart
  signal := signal

/-- `mosquitto_new` on a client without a handle. -/
theorem mosquittoNew (owned : Owned s connectAt none) (cleared : s.mosq = none)
    (steady : ¬ Dangling connectAt' none) (late : ConnectPc.early connectAt' = false) :
    Owned (s.mosquittoNew true) connectAt' none where
  valid h points := by
    simp only [MqttSession.mosquittoNew, if_true, Option.some.injEq] at points ⊢
    omega
  live h below alive := by
    simp only [MqttSession.mosquittoNew, if_true, Option.some.injEq] at below alive ⊢
    by_cases new : h = s.created
    · exact new.symm
    · rw [Function.update_of_ne new] at alive
      rw [owned.live h (by omega) alive] at cleared
      cases cleared
  once h below := by
    simp only [MqttSession.mosquittoNew, if_true] at below ⊢
    by_cases new : h = s.created
    · subst new
      simp
    · rw [Function.update_of_ne new]
      exact owned.once h (by omega)
  dangling h points := by
    simp only [MqttSession.mosquittoNew, if_true, Option.some.injEq] at points ⊢
    subst points
    simp [steady]
  early before := by rw [late] at before; cases before
  apart closes := absurd rfl closes
  signal closes := by cases closes

/-- `mosquitto_destroy` on the handle, which dangles from then on. -/
theorem destroy (owned : Owned s connectAt closeAt) (steady : ¬ Dangling connectAt closeAt)
    (dangles : Dangling connectAt' closeAt') (late : ConnectPc.early connectAt' = false)
    (apart : closeAt' ≠ none → ConnectPc.done connectAt' = true)
    (silent : closeAt' ≠ some .signal) : Owned s.destroy connectAt' closeAt' := by
  have mosq : s.destroy.mosq = s.mosq := onHandle_mosq s _
  have created : s.destroy.created = s.created := onHandle_created s _
  have gone (h : Nat) (points : s.mosq = some h) : (s.destroy.handles h).destroys = 1 := by
    have alive : (s.handles h).destroys ≠ 1 := fun dead =>
      steady ((owned.dangling h points).mp dead)
    have atMost := owned.once h (owned.valid h points)
    rw [MqttSession.destroy, onHandle_handles, if_pos points]
    show (s.handles h).destroys + 1 = 1
    omega
  have kept (h : Nat) (other : s.mosq ≠ some h) :
      (s.destroy.handles h).destroys = (s.handles h).destroys := by
    rw [MqttSession.destroy, onHandle_handles, if_neg other]
  refine ⟨?_, ?_, ?_, ?_, ?_, apart, ?_⟩
  · intro h points
    rw [created]
    exact owned.valid h (mosq ▸ points)
  · intro h below alive
    rw [created] at below
    rw [mosq]
    by_cases points : s.mosq = some h
    · exact points
    · rw [kept h points] at alive
      exact owned.live h below alive
  · intro h below
    rw [created] at below
    by_cases points : s.mosq = some h
    · rw [gone h points]
    · rw [kept h points]
      exact owned.once h below
  · intro h points
    rw [mosq] at points
    simp [gone h points, dangles]
  · intro before
    rw [late] at before
    cases before
  · intro closes
    exact absurd closes silent

/-- `mosq_ = nullptr` after the destruction. -/
theorem clear (owned : Owned s connectAt closeAt) (dangles : Dangling connectAt closeAt)
    (apart : closeAt' ≠ none → ConnectPc.done connectAt' = true) :
    Owned { s with mosq := none } connectAt' closeAt' where
  valid h points := by cases points
  live h below alive := by
    have dead := (owned.dangling h (owned.live h below alive)).mpr dangles
    exact absurd (dead.symm.trans alive) (by decide)
  once := owned.once
  dangling h points := by cases points
  early _ := rfl
  apart := apart
  signal _ := rfl

/-! ## `connect` -/

/-- Call `connect` on a client without a handle. -/
theorem beginConnect (owned : Owned s connectAt none) (cleared : s.mosq = none) :
    Owned s (some .guard) none where
  valid := owned.valid
  live := owned.live
  once := owned.once
  dangling h points := by rw [cleared] at points; cases points
  early _ := cleared
  apart closes := absurd rfl closes
  signal closes := by cases closes

/-- `connect` goes on, away from a destroyed handle. -/
theorem onward (owned : Owned s connectAt none) (here : connectAt ≠ some .abortClear)
    (next : connectAt' ≠ some .abortClear)
    (early : ConnectPc.early connectAt' = true → s.mosq = none) : Owned s connectAt' none := by
  apply owned.move _ early (fun closes => absurd rfl closes) owned.signal
  simp [Dangling, here, next]

/-- One step of `connect`. -/
theorem connectStep {pc : ConnectPc} (owned : Owned s (some pc) closeAt) (endpoint : Endpoint)
    (succeeds : Bool) :
    Owned (connectStep endpoint s pc succeeds).1 (connectStep endpoint s pc succeeds).2.pc?
      closeAt := by
  by_cases leaving : pc = .leave
  · subst leaving
    refine owned.move ?_ ?_ (fun _ => rfl) owned.signal
    · simp [Dangling, Mqtt.connectStep, Progress.pc?]
    · intro before
      cases before
  · -- `close` is away until `connect` has let go of the handle
    have alone : closeAt = none := by
      by_contra closes
      have finished := owned.apart closes
      cases pc <;> simp_all [ConnectPc.done]
    subst alone
    cases pc with
    | guard =>
        have cleared := owned.early rfl
        unfold Mqtt.connectStep
        simp only
        split
        · exact owned.onward (by simp) (by simp [Progress.pc?]) fun _ => cleared
        · have told : Owned { s with
              brokerAddress := endpoint.remoteAddress
              brokerPort := endpoint.remotePort.toNat } (some .guard) none :=
            owned.congr rfl rfl fun _ => rfl
          exact told.onward (by simp) (by simp [Progress.pc?]) fun _ => cleared
    | create =>
        have cleared := owned.early rfl
        cases succeeds with
        | true =>
            apply owned.mosquittoNew cleared _ rfl
            simp [Dangling, Mqtt.connectStep, Progress.pc?]
        | false =>
            have same : s.mosquittoNew false = s := by
              rw [MqttSession.mosquittoNew, if_neg (by decide), ← cleared]
            show Owned (s.mosquittoNew false) none none
            rw [same]
            exact owned.onward (by simp) (by simp) fun _ => cleared
    | loopStart =>
        unfold Mqtt.connectStep
        simp only
        split
        · have started : Owned s.loopStart (some .loopStart) none := owned.onHandle fun _ => rfl
          exact started.onward (by simp) (by simp [Progress.pc?]) fun early => by cases early
        · exact owned.onward (by simp) (by simp [Progress.pc?]) fun early => by cases early
    | initiate =>
        unfold Mqtt.connectStep
        simp only
        split
        · have initiated : Owned s.initiate (some .initiate) none := owned.onHandle fun _ => rfl
          exact initiated.onward (by simp) (by simp [Progress.pc?]) fun early => by cases early
        · exact owned.onward (by simp) (by simp [Progress.pc?]) fun early => by cases early
    | leave => exact absurd rfl leaving
    | abortLoopStop =>
        have stopped : Owned s.loopStop (some .abortLoopStop) none := owned.onHandle fun _ => rfl
        exact stopped.onward (by simp) (by simp [Mqtt.connectStep, Progress.pc?])
          fun early => by cases early
    | abortDestroy =>
        exact owned.destroy (by simp [Dangling]) (Or.inl rfl) rfl (fun closes => absurd rfl closes)
          (by simp)
    | abortClear => exact owned.clear (Or.inl rfl) fun closes => absurd rfl closes

/-! ## `close` -/

/-- Call `close` on a client whose `connect` has let go of the handle. -/
theorem beginClose (owned : Owned s connectAt none) (done : ConnectPc.done connectAt = true) :
    Owned s connectAt (some .check) :=
  owned.move (by simp [Dangling]) owned.early (fun _ => done) (by simp)

/-- One step of `close`. -/
theorem closeStep {pc : ClosePc} (owned : Owned s connectAt (some pc)) :
    Owned (closeStep s pc).1 connectAt (closeStep s pc).2.pc? := by
  have done : ConnectPc.done connectAt = true := owned.apart (by simp)
  have late : ConnectPc.early connectAt = false := by
    cases connectAt with
    | none => rfl
    | some point => cases point <;> first | rfl | cases done
  have aborts : connectAt ≠ some .abortClear := by
    rintro rfl
    cases done
  -- at any point but `clear` the handle is alive
  have onward {here next : Option ClosePc} {u : MqttSession} (step : Owned u connectAt here)
      (steadyHere : here ≠ some .clear) (steadyNext : next ≠ some .clear)
      (silent : next ≠ some .signal) : Owned u connectAt next :=
    step.move (by simp [Dangling, steadyHere, steadyNext]) step.early (fun _ => done)
      fun closes => absurd closes silent
  cases pc with
  | check =>
      unfold Mqtt.closeStep
      simp only
      split
      · exact onward owned (by simp) (by simp [Progress.pc?]) (by simp [Progress.pc?])
      · exact onward owned (by simp) (by simp [Progress.pc?]) (by simp [Progress.pc?])
  | unsetConnected =>
      have unset : Owned { s with connected := false } connectAt (some .unsetConnected) :=
        owned.congr rfl rfl fun _ => rfl
      exact onward unset (by simp) (by simp [Mqtt.closeStep, Progress.pc?])
        (by simp [Mqtt.closeStep, Progress.pc?])
  | disconnect =>
      exact onward owned (by simp) (by simp [Mqtt.closeStep, Progress.pc?])
        (by simp [Mqtt.closeStep, Progress.pc?])
  | loopStop =>
      have stopped : Owned s.loopStop connectAt (some .loopStop) := owned.onHandle fun _ => rfl
      exact onward stopped (by simp) (by simp [Mqtt.closeStep, Progress.pc?])
        (by simp [Mqtt.closeStep, Progress.pc?])
  | destroy =>
      exact owned.destroy (by simp [Dangling, aborts]) (Or.inr rfl) late (fun _ => done)
        (by simp [Mqtt.closeStep, Progress.pc?])
  | clear => exact owned.clear (Or.inr rfl) fun _ => done
  | signal =>
      exact onward owned (by simp) (by simp [Mqtt.closeStep, Progress.pc?])
        (by simp [Mqtt.closeStep, Progress.pc?])

/-- A `close` that has returned leaves no handle behind. -/
theorem closeStep_returned {pc : ClosePc} (owned : Owned s connectAt (some pc))
    (returned : (Mqtt.closeStep s pc).2.pc? = none) : (Mqtt.closeStep s pc).1.mosq = none := by
  cases pc with
  | check =>
      unfold Mqtt.closeStep at returned ⊢
      simp only at returned ⊢
      split at returned
      · rename_i cleared
        rw [if_pos cleared]
        exact Option.isNone_iff_eq_none.mp cleared
      · cases returned
  | signal => exact owned.signal rfl
  | _ => cases returned

/-! ## Callbacks -/

theorem handleConnect {c : MqttRadioClient} (owned : Owned c.session connectAt closeAt) (rc : Int)
    (accepted : Bool) : Owned (c.handleConnect rc accepted).session connectAt closeAt := by
  unfold MqttRadioClient.handleConnect
  split
  · have connected : Owned { c.session with connected := true } connectAt closeAt :=
      owned.congr rfl rfl fun _ => rfl
    cases accepted with
    | true =>
        show Owned (({ c.session with connected := true } : MqttSession).onHandle fun handle =>
          { handle with filters := handle.filters ++ [c.buildSubscribeTopic] }) connectAt closeAt
        exact connected.onHandle fun _ => rfl
    | false => exact connected
  · exact owned

theorem handleDisconnect {c : MqttRadioClient} (owned : Owned c.session connectAt closeAt) :
    Owned c.handleDisconnect.session connectAt closeAt :=
  owned.congr rfl rfl fun _ => rfl

end Owned

end V2xRosDriver.Mqtt
