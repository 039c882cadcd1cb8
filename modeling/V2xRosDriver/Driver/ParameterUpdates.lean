/-
# Driver.ParameterUpdates -- is an update all or nothing?

Each of the ten passes of `parameter_update_callback` writes its field as it walks the list,
up to the first parameter of the wrong type, and the callback comes back unsuccessful if any
of them met one.  What the passes have written by then stays written
(`rejected_update_applied`).  And a pass writes an integer into an `int`: a value that has no
room there is accepted, and another one is what the field holds.

So an update is all or nothing in two cases and in no other (`allOrNothing_iff`).  Either every
parameter that names a field has its type, and the last one for a field has room in it; or some
parameter has not the type of its field, and what was written is what was there.
-/
import V2xRosDriver.Driver.Parameters

namespace V2xRosDriver.Driver

set_option autoImplicit false

/-! ## Integers in fields of type `int` -/

namespace ParameterValue

/-- What a field holds once the value is written: an integer loses all but its low 32 bits. -/
def narrowed : ParameterValue → ParameterValue
  | .integer value => .integer value.toInt32.toInt64
  | value => value

/-- The value is no integer, or one an `int` has room for. -/
def Fits : ParameterValue → Prop
  | .integer value => -2 ^ 31 ≤ value.toInt ∧ value.toInt < 2 ^ 31
  | _ => True

/-- The values that have room are those that are kept as they are. -/
theorem narrowed_eq_iff (value : ParameterValue) : value.narrowed = value ↔ value.Fits := by
  cases value with
  | integer value =>
      simp only [narrowed, Fits, integer.injEq, ← Int64.toInt_inj, Int32.toInt_toInt64,
        Int64.toInt_toInt32]
      rw [Int.bmod_eq_iff (by decide)]
      omega
  | string value => simp [narrowed, Fits]
  | other => simp [narrowed, Fits]

end ParameterValue

/-! ## The fields -/

/-- A field of `config_`: the name of its parameter, the value it holds, and the values that
have its type. -/
structure Field where
  name : String
  look : Config → ParameterValue
  accepts : ParameterValue → Bool

def intField (name : String) (look : Config → Int32) : Field where
  name := name
  look config := .integer (look config).toInt64
  accepts value := value.asInt.isSome

def stringField (name : String) (look : Config → String) : Field where
  name := name
  look config := .string (look config)
  accepts value := value.asString.isSome

/-- The fields in the order of their passes. -/
def configFields : List Field :=
  [intField "listening_port" Config.listeningPort,
    intField "v2x_radio_listening_port" Config.v2xRadioListeningPort,
    stringField "v2x_radio_address" Config.v2xRadioAddress,
    stringField "protocol" Config.protocol,
    stringField "broker_address" Config.brokerAddress,
    intField "broker_port" Config.brokerPort,
    stringField "client_id" Config.clientId,
    intField "qos_default" Config.qosDefault,
    intField "reconnect_interval_sec" Config.reconnectIntervalSec,
    stringField "mqtt_topic_prefix" Config.mqttTopicPrefix]

/-- The fields are all there is to a configuration. -/
theorem config_ext {c d : Config} (same : ∀ f ∈ configFields, f.look c = f.look d) : c = d := by
  simp only [configFields, intField, stringField, List.forall_mem_cons,
    ParameterValue.integer.injEq, ParameterValue.string.injEq, ← Int64.toInt_inj,
    Int32.toInt_toInt64, Int32.toInt_inj] at same
  obtain ⟨listening, radioListening, radioAddress, protocol, brokerAddress, brokerPort, clientId,
    qos, interval, topicPrefix, -⟩ := same
  cases c
  cases d
  simp only [Config.mk.injEq]
  exact ⟨protocol, radioAddress, radioListening, listening, brokerAddress, brokerPort, clientId,
    qos, interval, topicPrefix⟩

theorem names_distinct : (configFields.map (·.name)).Nodup := by decide

namespace Field

variable (f : Field)

/-- The values the list gives for the field, whatever their type, in its order. -/
def entries (parameters : List Parameter) : List ParameterValue :=
  (parameters.filter (·.name = f.name)).map (·.value)

/-- Those in front of the first that has not the field's type. -/
def written (parameters : List Parameter) : List ParameterValue :=
  (f.entries parameters).takeWhile f.accepts

variable {f} {p : Parameter} {rest : List Parameter}

@[simp] theorem entries_cons_of_name (named : p.name = f.name) :
    f.entries (p :: rest) = p.value :: f.entries rest := by
  simp [entries, named]

@[simp] theorem entries_cons_of_other (other : p.name ≠ f.name) :
    f.entries (p :: rest) = f.entries rest := by
  simp [entries, other]

theorem written_eq_entries {parameters : List Parameter}
    (typed : ∀ value ∈ f.entries parameters, f.accepts value = true) :
    f.written parameters = f.entries parameters :=
  List.takeWhile_eq_self_iff.mpr typed

end Field

/-! ## A pass and its field -/

/-- The pass fails exactly if a parameter for its field has another type, writes the field with
what comes before, narrowed, and leaves the other fields alone. -/
structure PassServes (pass : Pass) (f : Field) : Prop where
  fails : ∀ parameters config, (pass parameters config).1 = true ↔
    ∃ value ∈ f.entries parameters, f.accepts value = false
  writes : ∀ parameters config, f.look (pass parameters config).2 =
    ((f.written parameters).getLast?.map ParameterValue.narrowed).getD (f.look config)
  keeps : ∀ g ∈ configFields, g.name ≠ f.name → ∀ parameters config,
    g.look (pass parameters config).2 = g.look config

section Serves

variable {α : Type} {read : ParameterValue → Option α} {write : α → Config → Config} {f : Field}

theorem updateParams_fails (reads : ∀ value, f.accepts value = (read value).isSome)
    (parameters : List Parameter) (config : Config) :
    (updateParams read f.name write parameters config).1 = true ↔
      ∃ value ∈ f.entries parameters, f.accepts value = false := by
  induction parameters generalizing config with
  | nil => simp [updateParams, Field.entries]
  | cons p rest ih =>
      by_cases named : p.name = f.name
      · cases found : read p.value with
        | none => simp [updateParams, named, found, reads]
        | some value => simp [updateParams, named, found, reads, ih]
      · simp [updateParams, named, ih]

theorem updateParams_writes (reads : ∀ value, f.accepts value = (read value).isSome)
    (holds : ∀ value content config, read value = some content →
      f.look (write content config) = value.narrowed)
    (parameters : List Parameter) (config : Config) :
    f.look (updateParams read f.name write parameters config).2 =
      ((f.written parameters).getLast?.map ParameterValue.narrowed).getD (f.look config) := by
  induction parameters generalizing config with
  | nil => rfl
  | cons p rest ih =>
      by_cases named : p.name = f.name
      · cases found : read p.value with
        | none =>
            have refused : f.accepts p.value = false := by
              rw [reads, found]
              rfl
            simp [updateParams, named, found, Field.written, refused]
        | some content =>
            have accepted : f.accepts p.value = true := by
              rw [reads, found]
              rfl
            have onward : f.written (p :: rest) = p.value :: f.written rest := by
              simp [Field.written, named, accepted]
            simp only [updateParams, if_pos named, found]
            rw [ih, holds _ _ _ found, onward, List.getLast?_cons, Option.map_some,
              Option.getD_some]
            cases (f.written rest).getLast? <;> rfl
      · have skipped : f.written (p :: rest) = f.written rest := by
          simp [Field.written, named]
        simp only [updateParams, if_neg named]
        rw [ih, skipped]

theorem serves_updateParams (reads : ∀ value, f.accepts value = (read value).isSome)
    (holds : ∀ value content config, read value = some content →
      f.look (write content config) = value.narrowed)
    (keeps : ∀ g ∈ configFields, g.name ≠ f.name → ∀ content config,
      g.look (write content config) = g.look config) :
    PassServes (updateParams read f.name write) f where
  fails := updateParams_fails reads
  writes := updateParams_writes reads holds
  keeps g among other := updateParams_keeps g.look (keeps g among other)

theorem serves_int {name : String} {look : Config → Int32} {write : Int32 → Config → Config}
    (holds : ∀ value config, look (write value config) = value)
    (keeps : ∀ g ∈ configFields, g.name ≠ name → ∀ value config,
      g.look (write value config) = g.look config) :
    PassServes (updateParams ParameterValue.asInt name write) (intField name look) := by
  apply serves_updateParams (f := intField name look)
  · exact fun _ => rfl
  · intro value content config found
    cases value <;> cases found
    exact congrArg (fun kept => ParameterValue.integer kept.toInt64) (holds _ config)
  · exact keeps

theorem serves_string {name : String} {look : Config → String} {write : String → Config → Config}
    (holds : ∀ value config, look (write value config) = value)
    (keeps : ∀ g ∈ configFields, g.name ≠ name → ∀ value config,
      g.look (write value config) = g.look config) :
    PassServes (updateParams ParameterValue.asString name write) (stringField name look) := by
  apply serves_updateParams (f := stringField name look)
  · exact fun _ => rfl
  · intro value content config found
    cases value <;> cases found
    exact congrArg ParameterValue.string (holds content config)
  · exact keeps

end Serves

/-- What holds of every field but one, checked field by field. -/
theorem forall_configFields {name : String} {holds : Field → Prop}
    (each : configFields.Forall fun g => g.name ≠ name → holds g) :
    ∀ g ∈ configFields, g.name ≠ name → holds g :=
  List.forall_iff_forall_mem.mp each

/-- Every pass serves its field. -/
theorem passes_serve :
    List.Forall₂ PassServes (earlierPasses ++ protocolPass :: laterPasses) configFields := by
  refine .cons (serves_int (fun _ _ => rfl) (forall_configFields ?_)) <|
    .cons (serves_int (fun _ _ => rfl) (forall_configFields ?_)) <|
    .cons (serves_string (fun _ _ => rfl) (forall_configFields ?_)) <|
    .cons (serves_string (fun _ _ => rfl) (forall_configFields ?_)) <|
    .cons (serves_string (fun _ _ => rfl) (forall_configFields ?_)) <|
    .cons (serves_int (fun _ _ => rfl) (forall_configFields ?_)) <|
    .cons (serves_string (fun _ _ => rfl) (forall_configFields ?_)) <|
    .cons (serves_int (fun _ _ => rfl) (forall_configFields ?_)) <|
    .cons (serves_int (fun _ _ => rfl) (forall_configFields ?_)) <|
    .cons (serves_string (fun _ _ => rfl) (forall_configFields ?_)) .nil
  all_goals simp [configFields, intField, stringField]

/-! ## The passes one after the other -/

section Passes

variable {passes : List Pass} {served : List Field}

/-- A field none of the passes serves stays as it is. -/
theorem runPasses_keeps (serve : List.Forall₂ PassServes passes served) {g : Field}
    (among : g ∈ configFields) (other : ∀ f ∈ served, g.name ≠ f.name) (parameters : List Parameter)
    (start : Bool × Config) :
    g.look (runPasses passes parameters start).2 = g.look start.2 := by
  induction serve generalizing start with
  | nil => rfl
  | cons serves _ ih =>
      obtain ⟨here, later⟩ := List.forall_mem_cons.mp other
      rw [runPasses, ih later]
      exact serves.keeps g among here parameters start.2

/-- There is an error in the end exactly if there was one or a pass meets one. -/
theorem runPasses_fails (serve : List.Forall₂ PassServes passes served)
    (parameters : List Parameter) (start : Bool × Config) :
    (runPasses passes parameters start).1 = true ↔ start.1 = true ∨
      ∃ f ∈ served, ∃ value ∈ f.entries parameters, f.accepts value = false := by
  induction serve generalizing start with
  | nil => simp [runPasses]
  | cons serves _ ih =>
      rw [runPasses, ih, Bool.or_eq_true, serves.fails, List.exists_mem_cons_iff, or_assoc]

/-- A field that is served holds what its own pass wrote. -/
theorem runPasses_writes (serve : List.Forall₂ PassServes passes served)
    (distinct : (served.map (·.name)).Nodup) (known : ∀ f ∈ served, f ∈ configFields)
    (parameters : List Parameter) (start : Bool × Config) :
    ∀ f ∈ served, f.look (runPasses passes parameters start).2 =
      ((f.written parameters).getLast?.map ParameterValue.narrowed).getD (f.look start.2) := by
  induction serve generalizing start with
  | nil => nofun
  | @cons pass first _ later serves serve ih =>
      rw [List.map_cons, List.nodup_cons] at distinct
      obtain ⟨fresh, distinct⟩ := distinct
      obtain ⟨firstKnown, laterKnown⟩ := List.forall_mem_cons.mp known
      have apart : ∀ f ∈ later, first.name ≠ f.name := by
        intro f among same
        exact fresh (same ▸ List.mem_map_of_mem among)
      refine List.forall_mem_cons.mpr ⟨?_, fun f among => ?_⟩
      · rw [runPasses, runPasses_keeps serve firstKnown apart]
        exact serves.writes parameters start.2
      · rw [runPasses, ih distinct laterKnown _ f among,
          serves.keeps f (laterKnown f among) (apart f among).symm]

end Passes

/-! ## The callback -/

section Callback

variable (parameters : List Parameter) (config : Config)

/-- Every parameter that names a field has the field's type. -/
def WellTyped : Prop := ∀ f ∈ configFields, ∀ value ∈ f.entries parameters, f.accepts value = true

/-- The last value given for a field has room in it. -/
def LastFits : Prop :=
  ∀ f ∈ configFields, ∀ value, (f.entries parameters).getLast? = some value → value.Fits

/-- Each field already holds what it would be left with: the last value given for it in front of
the first that has not its type, narrowed. -/
def AlreadyHeld : Prop :=
  ∀ f ∈ configFields, ∀ value, (f.written parameters).getLast? = some value →
    value.narrowed = f.look config

/-- An update that is not successful changes nothing, and one that is gives every field it names
the last value named, and leaves the others alone. -/
structure AllOrNothing : Prop where
  nothing : (parameterUpdateCallback parameters config).1 = false →
    (parameterUpdateCallback parameters config).2 = config
  all : (parameterUpdateCallback parameters config).1 = true → ∀ f ∈ configFields,
    f.look (parameterUpdateCallback parameters config).2 =
      (f.entries parameters).getLast?.getD (f.look config)

theorem callback_successful_iff :
    (parameterUpdateCallback parameters config).1 = true ↔ WellTyped parameters := by
  have fails := runPasses_fails passes_serve parameters (false, config)
  rw [parameterUpdateCallback, Bool.not_eq_true', ← Bool.not_eq_true, fails]
  simp [WellTyped]

/-- Successful or not, the callback writes every field with what comes before the first parameter
for it that has another type. -/
theorem callback_writes {f : Field} (among : f ∈ configFields) :
    f.look (parameterUpdateCallback parameters config).2 =
      ((f.written parameters).getLast?.map ParameterValue.narrowed).getD (f.look config) :=
  runPasses_writes passes_serve names_distinct (fun _ known => known) parameters (false, config) f
    among

theorem callback_inert_iff :
    (parameterUpdateCallback parameters config).2 = config ↔ AlreadyHeld parameters config := by
  constructor
  · intro same f among value last
    have wrote := callback_writes parameters config among
    rw [same, last, Option.map_some, Option.getD_some] at wrote
    exact wrote.symm
  · intro held
    apply config_ext
    intro f among
    rw [callback_writes parameters config among]
    cases last : (f.written parameters).getLast? with
    | none => rfl
    | some value => exact held f among value last

/-- A successful update leaves every field named with the last value named for it, narrowed. -/
theorem callback_accepted (typed : WellTyped parameters) {f : Field} (among : f ∈ configFields) :
    f.look (parameterUpdateCallback parameters config).2 =
      ((f.entries parameters).getLast?.map ParameterValue.narrowed).getD (f.look config) := by
  rw [callback_writes parameters config among, Field.written_eq_entries (typed f among)]

/-- It leaves every field with the value itself exactly if the values have room. -/
theorem callback_faithful_iff (typed : WellTyped parameters) :
    (∀ f ∈ configFields, f.look (parameterUpdateCallback parameters config).2 =
      (f.entries parameters).getLast?.getD (f.look config)) ↔ LastFits parameters := by
  constructor
  · intro faithful f among value last
    have kept := callback_accepted parameters config typed among
    rw [faithful f among, last, Option.map_some, Option.getD_some, Option.getD_some] at kept
    exact value.narrowed_eq_iff.mp kept.symm
  · intro fits f among
    rw [callback_accepted parameters config typed among]
    cases last : (f.entries parameters).getLast? with
    | none => rfl
    | some value => exact value.narrowed_eq_iff.mpr (fits f among value last)

/-- **Exactly when an update is all or nothing.**  It is if every parameter that names a field has
its type and the last one for a field has room in it, or if some parameter has not the type of its
field and the fields already hold what is written before the errors are met, and in no other
case. -/
theorem allOrNothing_iff :
    AllOrNothing parameters config ↔
      (WellTyped parameters ∧ LastFits parameters) ∨
        (¬ WellTyped parameters ∧ AlreadyHeld parameters config) := by
  by_cases typed : WellTyped parameters
  · have successful := (callback_successful_iff parameters config).mpr typed
    have faithful := callback_faithful_iff parameters config typed
    constructor
    · intro allOrNothing
      exact .inl ⟨typed, faithful.mp (allOrNothing.all successful)⟩
    · rintro (⟨_, fits⟩ | ⟨untyped, _⟩)
      · refine ⟨fun failed => ?_, fun _ => faithful.mpr fits⟩
        exact absurd (failed.symm.trans successful) (by decide)
      · exact absurd typed untyped
  · have failed := typed
    rw [← callback_successful_iff parameters config, Bool.not_eq_true] at failed
    constructor
    · intro allOrNothing
      exact .inr ⟨typed, (callback_inert_iff parameters config).mp (allOrNothing.nothing failed)⟩
    · rintro (⟨welltyped, _⟩ | ⟨_, held⟩)
      · exact absurd welltyped typed
      · refine ⟨fun _ => (callback_inert_iff parameters config).mpr held, fun successful => ?_⟩
        exact absurd (failed.symm.trans successful) (by decide)

/-- A port too large for an `int` is accepted, and port 5 is what the node listens on. -/
example : parameterUpdateCallback [⟨"listening_port", .integer 4294967301⟩] {} =
    (true, { listeningPort := 5 }) := by decide

end Callback

/-- A new listening port, and a protocol that is no string. -/
def mixedUpdate : List Parameter := [⟨"listening_port", .integer 6000⟩, ⟨"protocol", .integer 5⟩]

/-- The update is rejected, and the port is the new one. -/
theorem rejected_update_applied :
    parameterUpdateCallback mixedUpdate {} = (false, { listeningPort := 6000 }) ∧
      ¬ AllOrNothing mixedUpdate {} := by
  have ran : parameterUpdateCallback mixedUpdate {} = (false, { listeningPort := 6000 }) := by
    decide
  refine ⟨ran, fun allOrNothing => ?_⟩
  have same := allOrNothing.nothing (by rw [ran])
  rw [ran] at same
  exact absurd same (by decide)

end V2xRosDriver.Driver
