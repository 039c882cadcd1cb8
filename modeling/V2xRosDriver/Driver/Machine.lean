/-
# Driver.Machine -- the node, its callbacks and its connect thread, interleaved

Four parties move: the executor, which runs one callback of the node at a time; the
connect thread that `pre_spin` starts; the loop threads of libmosquitto, which call back;
and whoever asks for a callback.  A callback is a list of instructions, each one access
to the client pointer, the flag `connecting`, the error or the thread, so any step of
the other parties may fall between two of them.  `close` and the destructor of a client
take several steps themselves, during which the callback waits.

The callbacks of one node do not overlap: they share its default callback group, which
is mutually exclusive.  Only what concerns the radio client is modelled; publishers,
subscriptions and services are not.
-/
import V2xRosDriver.Driver.RadioClient

namespace V2xRosDriver.Driver

set_option autoImplicit false

open V2xRosDriver.Theory.Transition
open V2xRosDriver.Radio
open V2xRosDriver.Mqtt (MqttRadioClient)

/-- The algorithm configuration values of the driver. -/
structure Config where
  protocol : String := "udp"
  v2xRadioAddress : String := "169.254.1.1"
  v2xRadioListeningPort : Int32 := 1516
  listeningPort : Int32 := 5398
  brokerAddress : String := "localhost"
  brokerPort : Int32 := 1883
  clientId : String := ""
  qosDefault : Int32 := 0
  reconnectIntervalSec : Int32 := 5
  mqttTopicPrefix : String := "Ettifos/V2X"
  deriving DecidableEq, Repr

/-- A client object: whether its `onError` is connected to the node, and whether its
destructor has finished. -/
structure ClientObject where
  radio : RadioClient
  errorWired : Bool := false
  gone : Bool := false

/-- Where the connect thread stands: before it calls `connect`, in the call, before it clears
`connecting`, at its end. -/
inductive ConnectThread where
  | launched
  | connecting (client : Nat)
  | returned
  | finished
  deriving DecidableEq, Repr

/-- What a callback does to the radio client and what decides about it. -/
inductive Instr where
  | createRadioClient
  | close
  | clearError
  | testError
  | testConnecting
  | testConnected
  | setConnecting
  | clearConnecting
  | join
  | startThread
  | loadWaveConfig (file : WaveFile)
  | setWaveFilePath (path : String)
  | wireHandlers
  | deleteClient
  | releaseThread
  deriving DecidableEq

structure Node where
  config : Config := {}
  waveCfgItems : List WaveConfigStruct := []
  clients : Nat → ClientObject := fun _ => { radio := .udp { client := {} } }
  created : Nat := 0
  radioClient : Option Nat := none
  radioClientError : Bool := false
  connecting : Bool := false
  connectThread : Option ConnectThread := none
  /-- The rest of the callback that is running. -/
  script : List Instr := []
  /-- The client whose `close` the callback or a destructor is in. -/
  closing : Option Nat := none
  /-- The client whose destructor is running. -/
  deleting : Option Nat := none
  /-- The node's own destructor has begun. -/
  destroyed : Bool := false
  /-- A joinable thread was destroyed. -/
  terminated : Bool := false

namespace Node

/-- Change one client object. -/
def onClient (s : Node) (c : Nat) (change : RadioClient → RadioClient) : Node :=
  { s with
    clients := Function.update s.clients c
      { s.clients c with radio := change (s.clients c).radio } }

/-! ## Callbacks of the node -/

/-- `pre_spin`. -/
def preSpin : List Instr := [.testError, .testConnecting]

/-- `handle_on_configure`, once `config_` is set. -/
def handleOnConfigure (path : String) (file : WaveFile) : List Instr :=
  [.createRadioClient] ++ preSpin ++
    [.loadWaveConfig file, .setWaveFilePath path, .clearError, .wireHandlers]

def reconnectSrv : List Instr := [.close, .clearError, .clearConnecting] ++ preSpin

/-- `handle_on_shutdown`. -/
def handleOnShutdown : List Instr := [.join, .close]

/-- The members of the node are destroyed in the reverse order of their declaration. -/
def destructor : List Instr := [.deleteClient, .releaseThread]

/-! ## Instructions -/

/-- The client `createRadioClient` makes. -/
def newRadioClient (config : Config) : RadioClient :=
  if config.protocol = "mqtt" then
    let client := ({} : MqttRadioClient).setMqttConfig config.clientId config.qosDefault.toInt
      config.reconnectIntervalSec.toInt config.mqttTopicPrefix
    .mqtt { client := client }
  else .udp { client := {} }

/-- Begin the destructor of a client: its body is `close`. -/
def beginDelete (s : Node) (c : Nat) : Node :=
  { s.onClient c .beginClose with closing := some c, deleting := some c }

/-- `radio_client_ = std::move (client)`: the pointer is replaced, then the old client is
deleted. -/
def createRadioClient (s : Node) : Node :=
  let replaced :=
    { s with
      clients := Function.update s.clients s.created { radio := newRadioClient s.config }
      created := s.created + 1
      radioClient := some s.created }
  match s.radioClient with
  | some old => replaced.beginDelete old
  | none => replaced

/-- `radio_client_->close ()`; `handle_on_shutdown` asks first whether there is a client. -/
def close (s : Node) : Node :=
  match s.radioClient with
  | some c => { s.onClient c .beginClose with closing := some c }
  | none => s

/-- `connect_thread_->join ()` where there is a thread, which waits for its end; the thread
object is dropped or replaced right behind it. -/
def join (s : Node) : Option Node :=
  match s.connectThread with
  | none => some s
  | some .finished => some { s with connectThread := none }
  | some _ => none

/-- `radio_client_->connected ()`. -/
def clientConnected (s : Node) : Bool :=
  match s.radioClient with
  | some c => (s.clients c).radio.connected
  | none => false

/-- `radio_client_->onError.connect`. -/
def wireError (s : Node) (c : Nat) : Node :=
  { s with clients := Function.update s.clients c { s.clients c with errorWired := true } }

/-- Carry out one instruction; `none` while it has to wait. -/
def execute (s : Node) : Instr → Option Node
  | .createRadioClient => some s.createRadioClient
  | .close => some s.close
  | .clearError => some { s with radioClientError := false }
  | .testError =>
      some (if s.radioClientError then { s with script := .close :: .clearError :: s.script }
        else s)
  | .testConnecting =>
      some (if s.connecting then s else { s with script := .testConnected :: s.script })
  | .testConnected =>
      some (if s.clientConnected then s
        else { s with script := .setConnecting :: .join :: .startThread :: s.script })
  | .setConnecting => some { s with connecting := true }
  | .clearConnecting => some { s with connecting := false }
  | .join => s.join
  | .startThread => some { s with connectThread := some .launched }
  | .loadWaveConfig file => some { s with waveCfgItems := s.waveCfgItems ++ file.entries }
  | .setWaveFilePath path =>
      match s.radioClient with
      | some c => some (s.onClient c (RadioClient.setWaveFilePath path))
      | none => some s
  | .wireHandlers =>
      match s.radioClient with
      | some c => some (s.wireError c)
      | none => some s
  | .deleteClient =>
      match s.radioClient with
      | some c => some (s.beginDelete c)
      | none => some s
  | .releaseThread =>
      some { s with connectThread := none, terminated := s.connectThread.isSome }

/-- A destructor that is done: the object is gone, and so is the pointer that owned it. -/
def finishDelete (s : Node) (c : Nat) : Node :=
  { s with
    clients := Function.update s.clients c { s.clients c with gone := true }
    radioClient := if s.radioClient = some c then none else s.radioClient
    deleting := none }

/-- One step of a `close` call; the caller goes on when it has returned. -/
def stepClose (s : Node) (c : Nat) : Node :=
  let stepped := s.onClient c RadioClient.stepClose
  { stepped with closing := if (stepped.clients c).radio.isClosing then some c else none }

/-- One step of the executor. -/
def executorStep (s : Node) : Option Node :=
  match s.closing, s.deleting, s.script with
  | some c, _, _ => some (s.stepClose c)
  | none, some c, _ => some (s.finishDelete c)
  | none, none, instr :: rest => { s with script := rest }.execute instr
  | none, none, [] => none

/-- The executor can take up a callback. -/
def Idle (s : Node) : Prop :=
  s.script = [] ∧ s.closing = none ∧ s.deleting = none ∧ s.destroyed = false

instance (s : Node) : Decidable s.Idle := inferInstanceAs (Decidable (_ ∧ _ ∧ _ ∧ _))

/-! ## The connect thread -/

/-- The arguments the thread reads out of `config_`. -/
def endpoint (config : Config) : Endpoint :=
  if config.protocol = "mqtt" then ⟨config.brokerAddress, UInt16.ofInt config.brokerPort.toInt, 0⟩
  else ⟨config.v2xRadioAddress, UInt16.ofInt config.v2xRadioListeningPort.toInt,
    UInt16.ofInt config.listeningPort.toInt⟩

/-- One step of the connect thread.  Whatever `connect` returns or throws is only logged. -/
def threadStep (s : Node) (succeeds : Bool) : Option Node :=
  match s.connectThread, s.radioClient with
  | some .launched, some c =>
      some { s.onClient c (RadioClient.beginConnect (endpoint s.config)) with
        connectThread := some (.connecting c) }
  | some (.connecting c), _ =>
      let stepped := s.onClient c (RadioClient.stepConnect succeeds)
      some { stepped with
        connectThread := some
          (if (stepped.clients c).radio.isConnecting then .connecting c else .returned) }
  | some .returned, _ => some { s with connecting := false, connectThread := some .finished }
  | _, _ => none

/-! ## Steps -/

/-- Who moves. -/
inductive Action where
  | configure (config : Config) (path : String) (file : WaveFile)
  | reconnect
  | shutdown
  | destruct
  | executor
  | thread (succeeds : Bool)
  | connack (client handle : Nat) (rc : Int) (accepted : Bool)
  | dropped (client handle : Nat)
  | error (client : Nat)

/-- A client object answers a callback of its transport. -/
def callBack (s : Node) (c : Nat) (answer : RadioClient → Option RadioClient) : Option Node :=
  match answer (s.clients c).radio with
  | some radio => some (s.onClient c fun _ => radio)
  | none => none

def step (s : Node) : Action → Option Node
  | .configure config path file =>
      if s.Idle then some { s with config := config, script := handleOnConfigure path file }
      else none
  | .reconnect =>
      -- the service is offered once a client exists
      if s.Idle ∧ s.radioClient.isSome then some { s with script := reconnectSrv } else none
  | .shutdown => if s.Idle then some { s with script := handleOnShutdown } else none
  | .destruct =>
      if s.Idle then some { s with script := destructor, destroyed := true } else none
  | .executor => s.executorStep
  | .thread succeeds => s.threadStep succeeds
  | .connack c handle rc accepted => s.callBack c (RadioClient.connack handle rc accepted)
  | .dropped c handle => s.callBack c (RadioClient.dropped handle)
  | .error c =>
      if (s.clients c).errorWired then some { s with radioClientError := true } else none

end Node

/-- A node from its construction on, under every interleaving. -/
def system : System Node Node.Action where
  start s := s = {}
  step := Node.step

/-! ## What a step is -/

section Cases

variable {s t : Node}

/-- What a step of the executor is. -/
theorem executorStep_cases (moved : s.executorStep = some t) :
    (∃ c, s.closing = some c ∧ t = s.stepClose c) ∨
      (∃ c, s.closing = none ∧ s.deleting = some c ∧ t = s.finishDelete c) ∨
      ∃ instr rest, s.closing = none ∧ s.deleting = none ∧ s.script = instr :: rest ∧
        { s with script := rest }.execute instr = some t := by
  simp only [Node.executorStep] at moved
  split at moved
  · rename_i c closing
    cases moved
    exact .inl ⟨c, closing, rfl⟩
  · rename_i c closing deleting
    cases moved
    exact .inr (.inl ⟨c, closing, deleting, rfl⟩)
  · rename_i instr rest closing deleting script
    exact .inr (.inr ⟨instr, rest, closing, deleting, script, moved⟩)
  · cases moved

/-- What a step of the connect thread is. -/
theorem threadStep_cases {succeeds : Bool} (moved : s.threadStep succeeds = some t) :
    (∃ c, s.connectThread = some .launched ∧ s.radioClient = some c ∧
      t = { s.onClient c (RadioClient.beginConnect (Node.endpoint s.config)) with
        connectThread := some (.connecting c) }) ∨
      (∃ c, s.connectThread = some (.connecting c) ∧
        t = { s.onClient c (RadioClient.stepConnect succeeds) with
          connectThread := some
            (if ((s.onClient c (RadioClient.stepConnect succeeds)).clients c).radio.isConnecting
            then .connecting c else .returned) }) ∨
      s.connectThread = some .returned ∧
        t = { s with connecting := false, connectThread := some .finished } := by
  simp only [Node.threadStep] at moved
  split at moved
  · rename_i c launched points
    cases moved
    exact .inl ⟨c, launched, points, rfl⟩
  · rename_i c connects
    cases moved
    exact .inr (.inl ⟨c, connects, rfl⟩)
  · rename_i returned
    cases moved
    exact .inr (.inr ⟨returned, rfl⟩)
  · cases moved

theorem callBack_cases {c : Nat} {answer : RadioClient → Option RadioClient}
    (moved : s.callBack c answer = some t) :
    ∃ radio, answer (s.clients c).radio = some radio ∧ t = s.onClient c fun _ => radio := by
  simp only [Node.callBack] at moved
  split at moved
  · rename_i radio answered
    cases moved
    exact ⟨radio, answered, rfl⟩
  · cases moved

theorem configure_cases {config : Config} {path : String} {file : WaveFile}
    (moved : s.step (.configure config path file) = some t) :
    s.Idle ∧ t = { s with config := config, script := Node.handleOnConfigure path file } := by
  simp only [Node.step, Option.ite_none_right_eq_some, Option.some.injEq] at moved
  exact ⟨moved.1, moved.2.symm⟩

theorem reconnect_cases (moved : s.step .reconnect = some t) :
    s.Idle ∧ s.radioClient.isSome = true ∧ t = { s with script := Node.reconnectSrv } := by
  simp only [Node.step, Option.ite_none_right_eq_some, Option.some.injEq] at moved
  exact ⟨moved.1.1, moved.1.2, moved.2.symm⟩

theorem shutdown_cases (moved : s.step .shutdown = some t) :
    s.Idle ∧ t = { s with script := Node.handleOnShutdown } := by
  simp only [Node.step, Option.ite_none_right_eq_some, Option.some.injEq] at moved
  exact ⟨moved.1, moved.2.symm⟩

theorem destruct_cases (moved : s.step .destruct = some t) :
    s.Idle ∧ t = { s with script := Node.destructor, destroyed := true } := by
  simp only [Node.step, Option.ite_none_right_eq_some, Option.some.injEq] at moved
  exact ⟨moved.1, moved.2.symm⟩

theorem error_cases {c : Nat} (moved : s.step (.error c) = some t) :
    (s.clients c).errorWired = true ∧ t = { s with radioClientError := true } := by
  simp only [Node.step, Option.ite_none_right_eq_some, Option.some.injEq] at moved
  exact ⟨moved.1, moved.2.symm⟩

end Cases

end V2xRosDriver.Driver
