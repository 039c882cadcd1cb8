/-
# Mqtt.Session -- mosquitto handles, and `connect` and `close` step by step

A session is what a `MqttRadioClient` knows of libmosquitto, its handle `mosq` and its
flag `connected`, together with what libmosquitto knows of every handle the client ever
created.  `connect` and `close` run on different threads, so each is a step function from
one library call or one write to the next.  The answer of a library call, did it succeed,
is the environment's.

A library call on a null handle does nothing and fails, as libmosquitto's own checks
have it.
-/
import V2xRosDriver.Radio.BaseRadioClient
import V2xRosDriver.Theory.Transition
import Mathlib.Logic.Function.Basic

namespace V2xRosDriver.Mqtt

set_option autoImplicit false

open V2xRosDriver.Radio
open V2xRosDriver.Theory.Transition

/-- One mosquitto instance: whether its loop thread runs, the broker it was sent to, the
filters it subscribed to, and how often it was passed to `mosquitto_destroy`. -/
structure Mosquitto where
  looping : Bool := false
  endpoint : Option (String × Int) := none
  filters : List String := []
  destroys : Nat := 0
  deriving DecidableEq

/-- The handle and the flag of a client, the broker it is told to connect to, and the
instances it created, numbered in the order of `mosquitto_new`. -/
structure MqttSession where
  mosq : Option Nat := none
  connected : Bool := false
  brokerAddress : String := ""
  brokerPort : Int := 1883
  created : Nat := 0
  handles : Nat → Mosquitto := fun _ => {}

namespace MqttSession

/-- A library call on `mosq_`. -/
def onHandle (s : MqttSession) (call : Mosquitto → Mosquitto) : MqttSession :=
  match s.mosq with
  | none => s
  | some h => { s with handles := Function.update s.handles h (call (s.handles h)) }

/-- `mosq_ = mosquitto_new (...)`. -/
def mosquittoNew (s : MqttSession) (succeeds : Bool) : MqttSession :=
  if succeeds then
    { s with
      mosq := some s.created
      created := s.created + 1
      handles := Function.update s.handles s.created {} }
  else { s with mosq := none }

def loopStart (s : MqttSession) : MqttSession :=
  s.onHandle fun handle => { handle with looping := true }

def loopStop (s : MqttSession) : MqttSession :=
  s.onHandle fun handle => { handle with looping := false }

/-- `mosquitto_connect`: from here on the broker may answer. -/
def initiate (s : MqttSession) : MqttSession :=
  s.onHandle fun handle => { handle with endpoint := some (s.brokerAddress, s.brokerPort) }

def destroy (s : MqttSession) : MqttSession :=
  s.onHandle fun handle => { handle with destroys := handle.destroys + 1 }

end MqttSession

/-! ## `connect` -/

/-- Program points of `MqttRadioClient::connect`. -/
inductive ConnectPc where
  | guard
  | create
  | loopStart
  | initiate
  | leave
  | abortLoopStop
  | abortDestroy
  | abortClear
  deriving DecidableEq, Repr

/-- One step of `connect`; `succeeds` is the answer of the library call it makes.  MQTT does
not use the local port. -/
def connectStep (endpoint : Endpoint) (s : MqttSession) (pc : ConnectPc) (succeeds : Bool) :
    MqttSession × Progress ConnectPc ConnectResult :=
  match pc with
  | .guard =>
      if s.connected then (s, .returned (.error .alreadyConnected))
      else
        ({ s with
            brokerAddress := endpoint.remoteAddress
            brokerPort := endpoint.remotePort.toNat },
          .goes .create)
  | .create =>
      (s.mosquittoNew succeeds,
        if succeeds then .goes .loopStart else .returned (.error .noMemory))
  | .loopStart =>
      if succeeds ∧ s.mosq.isSome then (s.loopStart, .goes .initiate) else (s, .goes .abortDestroy)
  | .initiate =>
      if succeeds ∧ s.mosq.isSome then (s.initiate, .goes .leave) else (s, .goes .abortLoopStop)
  | .leave => (s, .returned (.ok ()))
  | .abortLoopStop => (s.loopStop, .goes .abortDestroy)
  | .abortDestroy => (s.destroy, .goes .abortClear)
  | .abortClear => ({ s with mosq := none }, .returned (.error .connectionRefused))

/-! ## `close` -/

/-- Program points of `MqttRadioClient::close`. -/
inductive ClosePc where
  | check
  | unsetConnected
  | disconnect
  | loopStop
  | destroy
  | clear
  | signal
  deriving DecidableEq, Repr

/-- One step of `close`. `mosquitto_disconnect` only asks the loop thread to say goodbye;
`mosquitto_loop_stop` waits for that thread. -/
def closeStep (s : MqttSession) : ClosePc → MqttSession × Progress ClosePc Unit
  | .check => if s.mosq.isNone then (s, .returned ()) else (s, .goes .unsetConnected)
  | .unsetConnected => ({ s with connected := false }, .goes .disconnect)
  | .disconnect => (s, .goes .loopStop)
  | .loopStop => (s.loopStop, .goes .destroy)
  | .destroy => (s.destroy, .goes .clear)
  | .clear => ({ s with mosq := none }, .goes .signal)
  | .signal => (s, .returned ())

/-! ## Callbacks -/

/-- A callback of instance `h` can run: its loop thread is up and `mosquitto_connect` has
returned success. -/
def MqttSession.CanCallBack (s : MqttSession) (h : Nat) : Prop :=
  h < s.created ∧ (s.handles h).looping = true ∧ (s.handles h).endpoint.isSome = true ∧
    (s.handles h).destroys = 0

instance (s : MqttSession) (h : Nat) : Decidable (s.CanCallBack h) :=
  inferInstanceAs (Decidable (_ ∧ _))

end V2xRosDriver.Mqtt
