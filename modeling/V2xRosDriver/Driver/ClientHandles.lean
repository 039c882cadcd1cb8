/-
# Driver.ClientHandles -- the handles of a client object under the steps of its calls

`Mqtt.Ownership` follows the handles of a session through the steps of `connect` and
`close`.  Here its results are carried over to the client objects the node holds, of
either transport: a client may be told to connect when it has no handle, and to close
when no `connect` is still to let go of the handle it uses (`letGo`).  A client of the
UDP transport has no handles, and every statement about it is trivial.
-/
import V2xRosDriver.Driver.PendingConnect
import V2xRosDriver.Mqtt.Ownership

namespace V2xRosDriver.Driver

set_option autoImplicit false

open V2xRosDriver.Theory.Transition
open V2xRosDriver.Radio

namespace RadioClient

/-- An MQTT client has no handle in place. -/
def NoHandle : RadioClient → Prop
  | .mqtt calls => calls.client.session.mosq = none
  | .udp _ => True

/-- An MQTT client's handles are in order. -/
def Owned : RadioClient → Prop
  | .mqtt calls =>
      Mqtt.Owned calls.client.session (calls.connectAt.map (·.2)) calls.closeAt
  | .udp _ => True

/-- No `connect` is still to use the handle. -/
def done : RadioClient → Bool
  | .mqtt calls => Mqtt.ConnectPc.done (calls.connectAt.map (·.2))
  | .udp _ => true

/-- `r'` is `r` after something that concerns neither its handle nor its calls. -/
structure Benign (r r' : RadioClient) : Prop where
  owned : r.Owned → r'.Owned
  done : r'.done = r.done
  closing : r'.isClosing = r.isClosing
  noHandle : r.NoHandle → r'.NoHandle

variable {r : RadioClient}

theorem Benign.refl (r : RadioClient) : Benign r r := ⟨id, rfl, rfl, id⟩

theorem benign_setWaveFilePath (path : String) (r : RadioClient) :
    Benign r (r.setWaveFilePath path) := by
  cases r <;> exact ⟨id, rfl, rfl, id⟩

theorem benign_connack {answered : RadioClient} {h : Nat} {rc : Int} {accepted : Bool}
    (answer : r.connack h rc accepted = some answered) : Benign r answered := by
  obtain ⟨calls, rfl, -, rfl⟩ := connack_cases answer
  refine ⟨fun owned => owned.handleConnect rc accepted, rfl, rfl, fun cleared => ?_⟩
  have kept : (calls.client.handleConnect rc accepted).session.mosq =
      calls.client.session.mosq := by
    unfold Mqtt.MqttRadioClient.handleConnect Mqtt.MqttRadioClient.subscribeToTopics
    split
    · cases accepted with
      | true => exact Mqtt.onHandle_mosq _ _
      | false => rfl
    · rfl
  exact kept.trans cleared

theorem benign_dropped {answered : RadioClient} {h : Nat}
    (answer : r.dropped h = some answered) : Benign r answered := by
  obtain ⟨calls, rfl, -, rfl⟩ := dropped_cases answer
  exact ⟨fun owned => owned.handleDisconnect, rfl, rfl, id⟩

/-! ### `connect` -/

theorem owned_beginConnect (owned : r.Owned) (open_ : r.isClosing = false)
    (cleared : r.NoHandle) (endpoint : Endpoint) : (r.beginConnect endpoint).Owned := by
  cases r with
  | mqtt calls =>
      obtain ⟨client, connectAt, closeAt⟩ := calls
      cases closeAt with
      | none => exact Mqtt.Owned.beginConnect owned cleared
      | some pc => cases open_
  | udp calls => trivial

theorem isClosing_beginConnect (r : RadioClient) (endpoint : Endpoint) :
    (r.beginConnect endpoint).isClosing = r.isClosing := by
  cases r <;> rfl

theorem owned_stepConnect (owned : r.Owned) (succeeds : Bool) : (r.stepConnect succeeds).Owned := by
  cases r with
  | mqtt calls =>
      obtain ⟨client, connectAt, closeAt⟩ := calls
      cases connectAt with
      | none => exact owned
      | some call =>
          obtain ⟨endpoint, pc⟩ := call
          have here : Mqtt.Owned client.session (some pc) closeAt := owned
          have stepped := here.connectStep endpoint succeeds
          simp only [Owned, stepConnect, Calls.stepConnect, Mqtt.MqttRadioClient.connectStep,
            Option.map_map]
          convert stepped using 1
          simp [Function.comp_def]
  | udp calls => trivial

theorem isClosing_stepConnect (r : RadioClient) (succeeds : Bool) :
    (r.stepConnect succeeds).isClosing = r.isClosing := by
  cases r with
  | mqtt calls =>
      simp only [stepConnect, isClosing, Calls.stepConnect]
      cases calls.connectAt <;> rfl
  | udp calls =>
      simp only [stepConnect, isClosing, Calls.stepConnect]
      cases calls.connectAt <;> rfl

theorem isConnecting_of_working (working : r.done = false) : r.isConnecting = true := by
  cases r with
  | mqtt calls =>
      obtain ⟨client, connectAt, closeAt⟩ := calls
      cases connectAt with
      | none => cases working
      | some call => rfl
  | udp calls => cases working

/-- The calls of `connect` that have let go of the handle for good. -/
def letGo : Settled
  | some (.inl .leave) => true
  | _ => false

/-- The last step of `connect` only returns. -/
theorem benign_leave {succeeds : Bool} (leaving : letGo r.phase = true) :
    Benign r (r.stepConnect succeeds) ∧ (r.stepConnect succeeds).isConnecting = false := by
  cases r with
  | mqtt calls =>
      obtain ⟨client, connectAt, closeAt⟩ := calls
      cases connectAt with
      | none => cases leaving
      | some call =>
          obtain ⟨endpoint, pc⟩ := call
          cases pc with
          | leave =>
              refine ⟨⟨fun owned => ?_, rfl, rfl, id⟩, rfl⟩
              exact owned_stepConnect owned succeeds
          | _ => cases leaving
  | udp calls =>
      obtain ⟨client, connectAt, closeAt⟩ := calls
      cases connectAt <;> cases leaving

/-! ### `close` -/

theorem owned_beginClose (owned : r.Owned) (open_ : r.isClosing = false) (done : r.done = true) :
    r.beginClose.Owned := by
  cases r with
  | mqtt calls =>
      obtain ⟨client, connectAt, closeAt⟩ := calls
      cases closeAt with
      | none => exact Mqtt.Owned.beginClose owned done
      | some pc => cases open_
  | udp calls => trivial

theorem owned_stepClose (owned : r.Owned) : r.stepClose.Owned := by
  cases r with
  | mqtt calls =>
      obtain ⟨client, connectAt, closeAt⟩ := calls
      cases closeAt with
      | none => exact owned
      | some pc => exact Mqtt.Owned.closeStep owned
  | udp calls => trivial

/-- A `close` that has returned leaves no handle in place. -/
theorem noHandle_of_returned (owned : r.Owned) (closes : r.isClosing = true)
    (returned : r.stepClose.isClosing = false) : r.stepClose.NoHandle := by
  cases r with
  | mqtt calls =>
      obtain ⟨client, connectAt, closeAt⟩ := calls
      cases closeAt with
      | none => cases closes
      | some pc =>
          apply Mqtt.Owned.closeStep_returned owned
          simpa [isClosing, stepClose, Calls.stepClose, Mqtt.MqttRadioClient.closeStep]
            using returned
  | udp calls => trivial

theorem done_beginClose (r : RadioClient) : r.beginClose.done = r.done := by
  cases r <;> rfl

theorem done_stepClose (r : RadioClient) : r.stepClose.done = r.done := by
  cases r with
  | mqtt calls =>
      simp only [stepClose, done, Calls.stepClose]
      cases calls.closeAt <;> rfl
  | udp calls => rfl

/-- A call that has not let go is one the guard counts as pending. -/
theorem done_of_letGo (leaving : letGo r.phase = true) : r.done = true := by
  cases r with
  | mqtt calls =>
      obtain ⟨client, connectAt, closeAt⟩ := calls
      cases connectAt with
      | none => rfl
      | some call =>
          obtain ⟨endpoint, pc⟩ := call
          cases pc <;> first | rfl | cases leaving
  | udp calls => rfl

end RadioClient

end V2xRosDriver.Driver
