/-
# Driver.RadioClient -- a radio client as the node holds it

The node holds a client of either transport through a pointer to its base class.  A
client object is modelled with the calls that are running on it: where a `connect` and
where a `close` stand, if one has been called and has not returned.  The connect thread
moves the first, a callback of the node or a destructor the second.
-/
import V2xRosDriver.Mqtt.MqttRadioClient
import V2xRosDriver.Udp.UdpRadioClient

namespace V2xRosDriver.Driver

set_option autoImplicit false

open V2xRosDriver.Theory.Transition
open V2xRosDriver.Radio
open V2xRosDriver.Mqtt (MqttRadioClient)
open V2xRosDriver.Udp (UdpRadioClient)

/-! ## Calls in progress -/

/-- A client with its `connect` call and its `close` call, where they run. -/
structure Calls (κ π ϖ : Type) where
  client : κ
  connectAt : Option (Endpoint × π) := none
  closeAt : Option ϖ := none

namespace Calls

variable {κ π ϖ : Type}

/-- One step of the `connect` call, if there is one. -/
def stepConnect (step : Endpoint → κ → π → Bool → κ × Progress π ConnectResult)
    (calls : Calls κ π ϖ) (succeeds : Bool) : Calls κ π ϖ :=
  match calls.connectAt with
  | none => calls
  | some (endpoint, pc) =>
      let stepped := step endpoint calls.client pc succeeds
      { calls with client := stepped.1, connectAt := stepped.2.pc?.map (endpoint, ·) }

/-- One step of the `close` call, if there is one. -/
def stepClose (step : κ → ϖ → κ × Progress ϖ Unit) (calls : Calls κ π ϖ) : Calls κ π ϖ :=
  match calls.closeAt with
  | none => calls
  | some pc =>
      let stepped := step calls.client pc
      { calls with client := stepped.1, closeAt := stepped.2.pc? }

end Calls

/-! ## The two transports -/

/-- A client object. -/
inductive RadioClient where
  | mqtt (calls : Calls MqttRadioClient Mqtt.ConnectPc Mqtt.ClosePc)
  | udp (calls : Calls UdpRadioClient Udp.ConnectPc Udp.ClosePc)

namespace RadioClient

/-- `connected ()`. -/
def connected : RadioClient → Bool
  | .mqtt calls => calls.client.session.connected
  | .udp calls => calls.client.running

def setWaveFilePath (path : String) : RadioClient → RadioClient
  | .mqtt calls => .mqtt { calls with client := { calls.client with waveFilePath := path } }
  | .udp calls => .udp { calls with client := { calls.client with waveFilePath := path } }

/-- A `connect` call is running. -/
def isConnecting : RadioClient → Bool
  | .mqtt calls => calls.connectAt.isSome
  | .udp calls => calls.connectAt.isSome

/-- A `close` call is running. -/
def isClosing : RadioClient → Bool
  | .mqtt calls => calls.closeAt.isSome
  | .udp calls => calls.closeAt.isSome

/-- Call `connect`. -/
def beginConnect (endpoint : Endpoint) : RadioClient → RadioClient
  | .mqtt calls => .mqtt { calls with connectAt := some (endpoint, .guard) }
  | .udp calls => .udp { calls with connectAt := some (endpoint, .guard) }

def stepConnect (succeeds : Bool) : RadioClient → RadioClient
  | .mqtt calls => .mqtt (calls.stepConnect MqttRadioClient.connectStep succeeds)
  | .udp calls => .udp (calls.stepConnect UdpRadioClient.connectStep succeeds)

/-- Call `close`. -/
def beginClose : RadioClient → RadioClient
  | .mqtt calls => .mqtt { calls with closeAt := some .check }
  | .udp calls => .udp { calls with closeAt := some .check }

def stepClose : RadioClient → RadioClient
  | .mqtt calls => .mqtt (calls.stepClose MqttRadioClient.closeStep)
  | .udp calls => .udp (calls.stepClose UdpRadioClient.closeStep)

/-- A CONNACK of instance `h` reaches an MQTT client. -/
def connack (h : Nat) (rc : Int) (accepted : Bool) : RadioClient → Option RadioClient
  | .mqtt calls =>
      if calls.client.session.CanCallBack h then
        some (.mqtt { calls with client := calls.client.handleConnect rc accepted })
      else none
  | .udp _ => none

/-- A disconnect of instance `h` reaches an MQTT client. -/
def dropped (h : Nat) : RadioClient → Option RadioClient
  | .mqtt calls =>
      if calls.client.session.CanCallBack h then
        some (.mqtt { calls with client := calls.client.handleDisconnect })
      else none
  | .udp _ => none

/-- `sendV2xMessage`; `accepted` is the answer of the library below. -/
def sendV2xMessage (accepted : Bool) (message : List UInt8) : RadioClient → Except Fault Bool
  | .mqtt calls => (calls.client.sendV2xMessage (some message) accepted).map (·.2)
  | .udp calls => .ok (calls.client.sendV2xMessage message accepted).2

/-- The part both transports share. -/
def base : RadioClient → BaseRadioClient
  | .mqtt calls => calls.client.toBaseRadioClient
  | .udp calls => calls.client.toBaseRadioClient

/-- A `connect` and a `close` of one client do not read each other's place. -/
theorem stepConnect_beginClose (r : RadioClient) (succeeds : Bool) :
    r.beginClose.stepConnect succeeds = (r.stepConnect succeeds).beginClose := by
  cases r with
  | mqtt calls =>
      obtain ⟨client, connectAt, closeAt⟩ := calls
      cases connectAt <;> rfl
  | udp calls =>
      obtain ⟨client, connectAt, closeAt⟩ := calls
      cases connectAt <;> rfl

/-! ## Callbacks of the transport -/

section Callbacks

variable {r answered : RadioClient} {h : Nat}

/-- Only an MQTT client answers a CONNACK, and only while its instance calls back. -/
theorem connack_cases {rc : Int} {accepted : Bool}
    (answer : r.connack h rc accepted = some answered) :
    ∃ calls, r = .mqtt calls ∧ calls.client.session.CanCallBack h ∧
      answered = .mqtt { calls with client := calls.client.handleConnect rc accepted } := by
  cases r with
  | mqtt calls =>
      simp only [connack, Option.ite_none_right_eq_some, Option.some.injEq] at answer
      exact ⟨calls, rfl, answer.1, answer.2.symm⟩
  | udp calls => cases answer

/-- Only an MQTT client learns of a disconnect, and only while its instance calls back. -/
theorem dropped_cases (answer : r.dropped h = some answered) :
    ∃ calls, r = .mqtt calls ∧ calls.client.session.CanCallBack h ∧
      answered = .mqtt { calls with client := calls.client.handleDisconnect } := by
  cases r with
  | mqtt calls =>
      simp only [dropped, Option.ite_none_right_eq_some, Option.some.injEq] at answer
      exact ⟨calls, rfl, answer.1, answer.2.symm⟩
  | udp calls => cases answer

end Callbacks

/-! ## What moves a `connect` call -/

/-- Where the `connect` call stands. -/
def phase : RadioClient → Option (Mqtt.ConnectPc ⊕ Udp.ConnectPc)
  | .mqtt calls => calls.connectAt.map (.inl ·.2)
  | .udp calls => calls.connectAt.map (.inr ·.2)

@[simp] theorem phase_setWaveFilePath (path : String) (r : RadioClient) :
    (r.setWaveFilePath path).phase = r.phase := by
  cases r <;> rfl

@[simp] theorem phase_beginClose (r : RadioClient) : r.beginClose.phase = r.phase := by
  cases r <;> rfl

@[simp] theorem phase_stepClose (r : RadioClient) : r.stepClose.phase = r.phase := by
  cases r with
  | mqtt calls =>
      simp only [stepClose, phase, Calls.stepClose]
      cases calls.closeAt <;> rfl
  | udp calls =>
      simp only [stepClose, phase, Calls.stepClose]
      cases calls.closeAt <;> rfl

theorem phase_connack {r answered : RadioClient} {h : Nat} {rc : Int} {accepted : Bool}
    (answer : r.connack h rc accepted = some answered) : answered.phase = r.phase := by
  obtain ⟨calls, rfl, -, rfl⟩ := connack_cases answer
  rfl

theorem phase_dropped {r answered : RadioClient} {h : Nat}
    (answer : r.dropped h = some answered) : answered.phase = r.phase := by
  obtain ⟨calls, rfl, -, rfl⟩ := dropped_cases answer
  rfl

end RadioClient

end V2xRosDriver.Driver
