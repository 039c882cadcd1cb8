/-
# Driver.Parameters -- parameter updates at run time

`parameter_update_callback` passes the list of changed parameters through `update_params`
ten times, once for each field of `config_`.  `update_params<T>` is not part of the
repository; as documented, it walks the list, writes the field at every parameter of its
name and type, and stops with an error at the first of its name and another type.  An integer
parameter is 64 bits wide, and a field of type `int` keeps the low 32 of them
(`ParameterValue.asInt`).
-/
import V2xRosDriver.Driver.Machine

namespace V2xRosDriver.Driver

set_option autoImplicit false

/-- The value of a parameter, as far as the driver can read one. -/
inductive ParameterValue where
  | integer (value : Int64)
  | string (value : String)
  | other
  deriving DecidableEq, Repr

/-- `rclcpp::Parameter`. -/
structure Parameter where
  name : String
  value : ParameterValue
  deriving DecidableEq, Repr

namespace ParameterValue

/-- The value as an `int`: whatever does not fit is cut off. -/
def asInt : ParameterValue → Option Int32
  | .integer value => some value.toInt32
  | _ => none

/-- The value as a `std::string`. -/
def asString : ParameterValue → Option String
  | .string value => some value
  | _ => none

end ParameterValue

section Update

variable {α : Type} (read : ParameterValue → Option α) (name : String)
  (write : α → Config → Config)

/-- `update_params<T>` for one field: did it end with an error, and the configuration it
leaves. -/
def updateParams : List Parameter → Config → Bool × Config
  | [], config => (false, config)
  | p :: rest, config =>
      if p.name = name then
        match read p.value with
        | some value => updateParams rest (write value config)
        | none => (true, config)
      else updateParams rest config

/-- The values the list gives for the field, in its order. -/
def given (parameters : List Parameter) : List α :=
  parameters.filterMap fun p => if p.name = name then read p.value else none

end Update

/-! ## The callback -/

/-- One of the ten passes. -/
abbrev Pass := List Parameter → Config → Bool × Config

def listeningPortPass : Pass :=
  updateParams ParameterValue.asInt "listening_port" fun value c =>
    { c with listeningPort := value }

def v2xRadioListeningPortPass : Pass :=
  updateParams ParameterValue.asInt "v2x_radio_listening_port" fun value c =>
    { c with v2xRadioListeningPort := value }

def v2xRadioAddressPass : Pass :=
  updateParams ParameterValue.asString "v2x_radio_address" fun value c =>
    { c with v2xRadioAddress := value }

def protocolPass : Pass :=
  updateParams ParameterValue.asString "protocol" fun value c => { c with protocol := value }

def brokerAddressPass : Pass :=
  updateParams ParameterValue.asString "broker_address" fun value c =>
    { c with brokerAddress := value }

def brokerPortPass : Pass :=
  updateParams ParameterValue.asInt "broker_port" fun value c => { c with brokerPort := value }

def clientIdPass : Pass :=
  updateParams ParameterValue.asString "client_id" fun value c => { c with clientId := value }

def qosDefaultPass : Pass :=
  updateParams ParameterValue.asInt "qos_default" fun value c => { c with qosDefault := value }

def reconnectIntervalSecPass : Pass :=
  updateParams ParameterValue.asInt "reconnect_interval_sec" fun value c =>
    { c with reconnectIntervalSec := value }

def mqttTopicPrefixPass : Pass :=
  updateParams ParameterValue.asString "mqtt_topic_prefix" fun value c =>
    { c with mqttTopicPrefix := value }

/-- The passes before that of `protocol`, and those behind it. -/
def earlierPasses : List Pass := [listeningPortPass, v2xRadioListeningPortPass, v2xRadioAddressPass]

def laterPasses : List Pass :=
  [brokerAddressPass, brokerPortPass, clientIdPass, qosDefaultPass, reconnectIntervalSecPass,
    mqttTopicPrefixPass]

/-- Make the passes one after the other, whatever each of them ends with. -/
def runPasses : List Pass → List Parameter → Bool × Config → Bool × Config
  | [], _, sofar => sofar
  | pass :: rest, parameters, sofar =>
      let passed := pass parameters sofar.2
      runPasses rest parameters (sofar.1 || passed.1, passed.2)

/-- `parameter_update_callback`: was it successful, and the configuration it leaves. -/
def parameterUpdateCallback (parameters : List Parameter) (config : Config) : Bool × Config :=
  let passed := runPasses (earlierPasses ++ protocolPass :: laterPasses) parameters (false, config)
  (!passed.1, passed.2)

/-! ## What a pass leaves -/

section Update

variable {α : Type} {read : ParameterValue → Option α} {name : String}
  {write : α → Config → Config}

/-- A pass without an error writes the given values in their order. -/
theorem updateParams_of_ok {parameters : List Parameter} {config : Config}
    (passes : (updateParams read name write parameters config).1 = false) :
    (updateParams read name write parameters config).2 =
      (given read name parameters).foldl (fun config value => write value config) config := by
  induction parameters generalizing config with
  | nil => rfl
  | cons p rest ih =>
      by_cases named : p.name = name
      · cases found : read p.value with
        | none => simp [updateParams, named, found] at passes
        | some value =>
            simp only [updateParams, if_pos named, found] at passes ⊢
            rw [ih passes]
            simp [given, named, found]
      · simp only [updateParams, if_neg named] at passes ⊢
        rw [ih passes]
        simp [given, named]

/-- A pass leaves alone whatever its writes leave alone. -/
theorem updateParams_keeps {β : Type} (look : Config → β)
    (keeps : ∀ value config, look (write value config) = look config)
    (parameters : List Parameter) (config : Config) :
    look (updateParams read name write parameters config).2 = look config := by
  induction parameters generalizing config with
  | nil => rfl
  | cons p rest ih =>
      simp only [updateParams]
      split
      · split
        · rw [ih, keeps]
        · rfl
      · exact ih config

end Update

/-- A pass leaves `protocol` alone. -/
def KeepsProtocol (pass : Pass) : Prop :=
  ∀ parameters config, (pass parameters config).2.protocol = config.protocol

theorem earlierPasses_keep : ∀ pass ∈ earlierPasses, KeepsProtocol pass := by
  simp only [earlierPasses, List.mem_cons, List.not_mem_nil, or_false]
  rintro pass (rfl | rfl | rfl) <;> exact updateParams_keeps Config.protocol fun _ _ => rfl

theorem laterPasses_keep : ∀ pass ∈ laterPasses, KeepsProtocol pass := by
  simp only [laterPasses, List.mem_cons, List.not_mem_nil, or_false]
  rintro pass (rfl | rfl | rfl | rfl | rfl | rfl) <;>
    exact updateParams_keeps Config.protocol fun _ _ => rfl

theorem runPasses_append (earlier later : List Pass) (parameters : List Parameter)
    (start : Bool × Config) :
    runPasses (earlier ++ later) parameters start =
      runPasses later parameters (runPasses earlier parameters start) := by
  induction earlier generalizing start with
  | nil => rfl
  | cons pass rest ih => exact ih _

theorem runPasses_protocol {passes : List Pass} (keep : ∀ pass ∈ passes, KeepsProtocol pass)
    (parameters : List Parameter) (start : Bool × Config) :
    (runPasses passes parameters start).2.protocol = start.2.protocol := by
  induction passes generalizing start with
  | nil => rfl
  | cons pass rest ih =>
      rw [runPasses, ih fun later among => keep later (List.mem_cons_of_mem _ among)]
      exact keep pass List.mem_cons_self parameters start.2

/-- An error of one pass is an error of the callback. -/
theorem runPasses_error {passes : List Pass} {parameters : List Parameter}
    {start : Bool × Config} (unharmed : (runPasses passes parameters start).1 = false) :
    start.1 = false := by
  induction passes generalizing start with
  | nil => exact unharmed
  | cons pass rest ih => exact (Bool.or_eq_false_iff.mp (ih unharmed)).1

theorem foldl_protocol (values : List String) (config : Config) :
    (values.foldl (fun config value => { config with protocol := value }) config).protocol =
      values.getLast?.getD config.protocol := by
  induction values generalizing config with
  | nil => rfl
  | cons value rest ih =>
      rw [List.foldl_cons, ih]
      cases rest <;> rfl

/-- The values a list of parameters gives for `protocol`. -/
def givenProtocols (parameters : List Parameter) : List String :=
  given ParameterValue.asString "protocol" parameters

/-- An accepted update sets `protocol` to the last value given for it, if there is one. -/
theorem protocol_of_accepted {parameters : List Parameter} {config : Config}
    (accepted : (parameterUpdateCallback parameters config).1 = true) :
    (parameterUpdateCallback parameters config).2.protocol =
      (givenProtocols parameters).getLast?.getD config.protocol := by
  simp only [parameterUpdateCallback, runPasses_append, runPasses, Bool.not_eq_true'] at accepted ⊢
  generalize before : runPasses earlierPasses parameters (false, config) = sofar at accepted ⊢
  have same : sofar.2.protocol = config.protocol := by
    rw [← before]
    exact runPasses_protocol earlierPasses_keep parameters (false, config)
  have passes : (protocolPass parameters sofar.2).1 = false :=
    (Bool.or_eq_false_iff.mp (runPasses_error accepted)).2
  rw [runPasses_protocol laterPasses_keep]
  show (protocolPass parameters sofar.2).2.protocol = _
  rw [protocolPass, updateParams_of_ok passes, foldl_protocol, same]
  rfl

end V2xRosDriver.Driver
