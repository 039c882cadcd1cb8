/-
# Driver.RestingClients -- a client object that has nothing to close

A client rests when it has no mosquitto handle or no I/O thread, according to its transport, and
no `connect` is on the way to one: a `connect` of an MQTT client may at most have to return.
Nothing but a `connect` ends its rest: `close` and whatever else is done to it are mild
(`Mild`).  A `close` that has returned leaves its client at rest (`resting_of_returned`); no
handle of a client at rest calls back, and it has no I/O thread.
-/
import V2xRosDriver.Driver.ClientHandles

namespace V2xRosDriver.Driver

set_option autoImplicit false

open V2xRosDriver.Theory.Transition
open V2xRosDriver.Radio
open V2xRosDriver.Mqtt (MqttRadioClient)

namespace RadioClient

/-- From the end of its check to the join of the I/O thread. -/
def stopping : Udp.ClosePc → Bool
  | .unsetRunning | .resetWork | .stopIo | .joinThread => true
  | _ => false

/-- There is nothing to close, and no `connect` is about to make it. -/
def Resting : RadioClient → Prop
  | .mqtt calls =>
      calls.client.session.mosq = none ∧
        ∀ endpoint pc, calls.connectAt = some (endpoint, pc) → pc = .leave
  | .udp calls =>
      calls.client.running = false ∧ calls.connectAt = none ∧
        ∀ pc, calls.closeAt = some pc → stopping pc = false

/-- A UDP client has its I/O thread while it runs, right before that and right behind it. -/
def hasIoThread : RadioClient → Bool
  | .mqtt _ => false
  | .udp calls =>
      calls.client.running || calls.connectAt.any (·.2 = .setRunning) ||
        calls.closeAt.any stopping

/-- A UDP client does not run any more once `close` has said so. -/
def Winding : RadioClient → Prop
  | .mqtt _ => True
  | .udp calls =>
      ∀ pc, calls.closeAt = some pc → pc ≠ .check → pc ≠ .unsetRunning →
        calls.client.running = false

/-- A UDP client is in a `connect` call. -/
def linking : RadioClient → Bool
  | .mqtt _ => false
  | .udp calls => calls.connectAt.isSome

/-- `r'` is `r` after something that neither wakes it up nor tells it to connect. -/
structure Mild (r r' : RadioClient) : Prop where
  resting : r.Resting → r'.Resting
  winding : r.Winding → r'.Winding
  linking : r'.linking = true → r.linking = true

variable {r : RadioClient}

theorem Mild.refl (r : RadioClient) : Mild r r := ⟨id, id, id⟩

theorem mild_setWaveFilePath (path : String) (r : RadioClient) :
    Mild r (r.setWaveFilePath path) := by
  cases r <;> exact ⟨id, id, id⟩

theorem mild_beginClose (r : RadioClient) : Mild r r.beginClose := by
  cases r with
  | mqtt calls => exact ⟨id, id, id⟩
  | udp calls =>
      refine ⟨fun resting => ⟨resting.1, resting.2.1, ?_⟩, fun _ => ?_, id⟩
      · rintro _ ⟨⟩
        rfl
      · rintro _ ⟨⟩ other
        exact absurd rfl other

/-- No step of `close` makes a UDP client run; the first leads nowhere but to the second. -/
theorem closeStep_running {c : Udp.UdpRadioClient} {pc : Udp.ClosePc}
    (still : c.running = false ∨ pc = .unsetRunning) : (c.closeStep pc).1.running = false := by
  rcases still with off | rfl
  · cases pc <;> simp [Udp.UdpRadioClient.closeStep, off]
  · rfl

theorem closeStep_check {c : Udp.UdpRadioClient} {next : Udp.ClosePc}
    (goes : (c.closeStep .check).2.pc? = some next) : c.running = true ∧ next = .unsetRunning := by
  rw [Udp.UdpRadioClient.closeStep] at goes
  split at goes
  · rename_i running
    exact ⟨running, (Option.some.inj goes).symm⟩
  · cases goes

theorem mild_stepClose (r : RadioClient) : Mild r r.stepClose := by
  cases r with
  | mqtt calls =>
      refine ⟨fun resting => ?_, id, id⟩
      obtain ⟨client, connectAt, closeAt⟩ := calls
      have cleared : client.session.mosq = none := resting.1
      have unconnected := resting.2
      cases closeAt with
      | none => exact ⟨cleared, unconnected⟩
      | some pc =>
          have kept : (Mqtt.closeStep client.session pc).1.mosq = none := by
            cases pc <;> simp [Mqtt.closeStep, Mqtt.MqttSession.loopStop,
              Mqtt.MqttSession.destroy, Mqtt.MqttSession.onHandle, cleared]
          exact ⟨kept, unconnected⟩
  | udp calls =>
      obtain ⟨client, connectAt, closeAt⟩ := calls
      cases closeAt with
      | none => exact ⟨id, id, id⟩
      | some pc =>
          refine ⟨fun resting => ?_, fun winding => ?_, id⟩
          · obtain ⟨off, unconnected, done⟩ := resting
            have off : client.running = false := off
            have beyond := done pc rfl
            refine ⟨closeStep_running (.inl off), unconnected, fun next goes => ?_⟩
            have goes : (client.closeStep pc).2.pc? = some next := goes
            cases pc with
            | check =>
                have running := (closeStep_check goes).1
                rw [off] at running
                cases running
            | stopListener | resetSocket =>
                cases goes
                rfl
            | signal => cases goes
            | unsetRunning | resetWork | stopIo | joinThread => cases beyond
          · intro next goes late early
            have goes : (client.closeStep pc).2.pc? = some next := goes
            apply closeStep_running
            by_cases first : pc = .check
            · subst first
              exact absurd (closeStep_check goes).2 early
            · by_cases second : pc = .unsetRunning
              · exact .inr second
              · exact .inl (winding pc rfl first second)

theorem mild_connack {answered : RadioClient} {h : Nat} {rc : Int} {accepted : Bool}
    (answer : r.connack h rc accepted = some answered) : Mild r answered := by
  have benign := benign_connack answer
  obtain ⟨calls, rfl, -, rfl⟩ := connack_cases answer
  exact ⟨fun resting => ⟨benign.noHandle resting.1, resting.2⟩, id, id⟩

theorem mild_dropped {answered : RadioClient} {h : Nat}
    (answer : r.dropped h = some answered) : Mild r answered := by
  have benign := benign_dropped answer
  obtain ⟨calls, rfl, -, rfl⟩ := dropped_cases answer
  exact ⟨fun resting => ⟨benign.noHandle resting.1, resting.2⟩, id, id⟩

/-- The last step of `connect` only returns. -/
theorem mild_leave {succeeds : Bool} (leaving : letGo r.phase = true) :
    Mild r (r.stepConnect succeeds) := by
  obtain ⟨benign, returned⟩ := @benign_leave r succeeds leaving
  cases r with
  | mqtt calls =>
      have gone : (calls.stepConnect Mqtt.MqttRadioClient.connectStep succeeds).connectAt = none :=
        Option.not_isSome_iff_eq_none.mp (Bool.eq_false_iff.mp returned)
      refine ⟨fun resting => ⟨benign.noHandle resting.1, fun endpoint pc at_ => ?_⟩, id, id⟩
      rw [gone] at at_
      cases at_
  | udp calls =>
      obtain ⟨client, connectAt, closeAt⟩ := calls
      cases connectAt <;> cases leaving

/-- With no `close` begun there is nothing to say. -/
theorem winding_of_open (open_ : r.isClosing = false) : r.Winding := by
  cases r with
  | mqtt calls => trivial
  | udp calls =>
      intro pc at_
      rw [isClosing, at_] at open_
      cases open_

/-- A `connect` that has let go of its handle may at most have to return. -/
theorem leaving_of_done {calls : Calls MqttRadioClient Mqtt.ConnectPc Mqtt.ClosePc}
    (done : (RadioClient.mqtt calls).done = true) (endpoint : Endpoint) (pc : Mqtt.ConnectPc)
    (at_ : calls.connectAt = some (endpoint, pc)) : pc = .leave := by
  rw [RadioClient.done, at_] at done
  cases pc <;> first | rfl | cases done

/-- A `close` that has returned leaves the client at rest. -/
theorem resting_of_returned (owned : r.Owned) (winding : r.Winding)
    (unconnected : r.linking = false) (done : r.done = true) (closes : r.isClosing = true)
    (returned : r.stepClose.isClosing = false) : r.stepClose.Resting := by
  have cleared := noHandle_of_returned owned closes returned
  cases r with
  | mqtt calls => exact ⟨cleared, leaving_of_done ((done_stepClose (.mqtt calls)).trans done)⟩
  | udp calls =>
      obtain ⟨client, connectAt, closeAt⟩ := calls
      have idle : connectAt = none := by simpa [linking] using unconnected
      cases closeAt with
      | none => cases closes
      | some pc =>
          have ended : (client.closeStep pc).2.pc? = none := by
            simpa [isClosing, stepClose, Calls.stepClose] using returned
          refine ⟨closeStep_running ?_, idle, fun next goes => ?_⟩
          · by_cases second : pc = .unsetRunning
            · exact .inr second
            · refine .inl ?_
              by_cases first : pc = .check
              · subst first
                rw [Udp.UdpRadioClient.closeStep] at ended
                split at ended
                · cases ended
                · rename_i off
                  exact Bool.eq_false_iff.mpr off
              · exact winding pc rfl first second
          · have goes : (client.closeStep pc).2.pc? = some next := goes
            rw [ended] at goes
            cases goes

theorem resting_newRadioClient (config : Config) : (Node.newRadioClient config).Resting := by
  rw [Node.newRadioClient]
  split
  · exact ⟨rfl, fun _ _ at_ => by cases at_⟩
  · exact ⟨rfl, rfl, fun _ at_ => by cases at_⟩

theorem Resting.hasIoThread (resting : r.Resting) : r.hasIoThread = false := by
  cases r with
  | mqtt calls => rfl
  | udp calls =>
      obtain ⟨client, connectAt, closeAt⟩ := calls
      obtain ⟨off, idle, done⟩ := resting
      simp only at off idle done
      subst idle
      cases closeAt with
      | none => simp [RadioClient.hasIoThread, off]
      | some pc => simp [RadioClient.hasIoThread, off, done pc rfl]

/-- No handle of a client at rest calls back. -/
theorem Resting.uncalled (resting : r.Resting) (owned : r.Owned) (h : Nat) :
    (∀ rc accepted, r.connack h rc accepted = none) ∧ r.dropped h = none := by
  cases r with
  | udp calls => exact ⟨fun _ _ => rfl, rfl⟩
  | mqtt calls =>
      have dead : ¬ calls.client.session.CanCallBack h := by
        rintro ⟨below, -, -, alive⟩
        have once := Mqtt.Owned.destroyed owned resting.1 h below
        rw [alive] at once
        cases once
      exact ⟨fun _ _ => if_neg dead, if_neg dead⟩

/-- `close` on a client at rest returns at its check. -/
theorem Resting.close (resting : r.Resting) (open_ : r.isClosing = false) :
    r.beginClose.stepClose = r := by
  cases r with
  | mqtt calls =>
      obtain ⟨client, connectAt, closeAt⟩ := calls
      obtain rfl : closeAt = none := by simpa [isClosing] using open_
      have returns : Mqtt.closeStep client.session .check = (client.session, .returned ()) :=
        if_pos (Option.isNone_iff_eq_none.mpr resting.1)
      simp [beginClose, stepClose, Calls.stepClose, Mqtt.MqttRadioClient.closeStep, returns,
        Progress.pc?]
  | udp calls =>
      obtain ⟨client, connectAt, closeAt⟩ := calls
      obtain rfl : closeAt = none := by simpa [isClosing] using open_
      have off : client.running = false := resting.1
      simp [beginClose, stepClose, Calls.stepClose, Udp.UdpRadioClient.closeStep, off,
        Progress.pc?]

end RadioClient

end V2xRosDriver.Driver
