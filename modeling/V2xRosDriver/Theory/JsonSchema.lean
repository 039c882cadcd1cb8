/-
# Theory.JsonSchema -- what a schema asks of a value, keyword by keyword

A schema is a JSON object whose members are its keywords.  `Demands` says what each of the four
keywords `type`, `items`, `properties` and `required` asks of a value, in terms of the
validator itself where the keyword holds a schema; a title, a description and the name of a
standard ask nothing.  A validator is lawful when it accepts exactly the values that meet all
keywords of a schema (`Lawful`).  The member names of an object need not be distinct: a
property is asked of each member of its name.

What a lawful validator makes of a schema for strings, for arrays and for objects is in
`string_iff`, `array_iff` and `object_iff`, and `accepts` is lawful.
-/
import Mathlib.Data.List.Basic
import Mathlib.Tactic.Common

namespace V2xRosDriver.Theory.JsonSchema

set_option autoImplicit false

/-- A JSON value.  A number is kept as it is written, an object as the list of its members. -/
inductive Json where
  | null
  | bool (value : Bool)
  | number (text : String)
  | string (text : String)
  | array (elements : List Json)
  | object (members : List (String × Json))

/-- The names `type` may give, as far as they matter here. -/
def hasType : String → Json → Bool
  | "string", .string _ | "array", .array _ | "object", .object _ => true
  | _, _ => false

/-! ## Keywords -/

/-- The keywords that are given their meaning below, each with a value of its kind, in a schema and
in the schemas it is made of. -/
inductive Covered : String → Json → Prop
  | standard (text : String) : Covered "$schema" (.string text)
  | title (text : String) : Covered "title" (.string text)
  | description (text : String) : Covered "description" (.string text)
  | type {kind : String} (known : kind ∈ ["string", "array", "object"]) :
      Covered "type" (.string kind)
  | items {keywords : List (String × Json)}
      (covered : ∀ keyword ∈ keywords, Covered keyword.1 keyword.2) :
      Covered "items" (.object keywords)
  | properties {schemas : List (String × List (String × Json))}
      (covered : ∀ schema ∈ schemas, ∀ keyword ∈ schema.2, Covered keyword.1 keyword.2) :
      Covered "properties" (.object (schemas.map fun schema => (schema.1, .object schema.2)))
  | required (names : List String) : Covered "required" (.array (names.map .string))

/-- What a keyword asks of a value. -/
structure Demands (accept : Json → Json → Bool) (keyword : String) (asks value : Json) :
    Prop where
  type : keyword = "type" → ∀ kind, asks = .string kind → hasType kind value = true
  items : keyword = "items" → ∀ elements, value = .array elements →
    ∀ element ∈ elements, accept asks element = true
  properties : keyword = "properties" → ∀ schemas members, asks = .object schemas →
    value = .object members → ∀ property ∈ schemas, ∀ member ∈ members,
      member.1 = property.1 → accept property.2 member.2 = true
  required : keyword = "required" → ∀ (names : List String) (members : List (String × Json)),
    asks = .array (names.map .string) → value = .object members →
      ∀ name ∈ names, name ∈ members.map Prod.fst

/-- A validator that goes by the keywords. -/
structure Lawful (accept : Json → Json → Bool) : Prop where
  accept_iff : ∀ (keywords : List (String × Json)) (value : Json),
    (keywords.map Prod.fst).Nodup → (∀ keyword ∈ keywords, Covered keyword.1 keyword.2) →
      (accept (.object keywords) value = true ↔
        ∀ keyword ∈ keywords, Demands accept keyword.1 keyword.2 value)

section Demands

variable {accept : Json → Json → Bool} {value : Json}

theorem demands_of_other {keyword : String} {asks : Json}
    (other : keyword ∉ ["type", "items", "properties", "required"]) :
    Demands accept keyword asks value := by
  simp only [List.mem_cons, List.not_mem_nil, or_false, not_or] at other
  obtain ⟨type, items, properties, required⟩ := other
  exact ⟨fun is => absurd is type, fun is => absurd is items, fun is => absurd is properties,
    fun is => absurd is required⟩

theorem demands_type_iff {kind : String} :
    Demands accept "type" (.string kind) value ↔ hasType kind value = true := by
  constructor
  · exact fun demands => demands.type rfl kind rfl
  · refine fun typed => ⟨fun _ other same => ?_, by simp, by simp, by simp⟩
    cases same
    exact typed

theorem demands_items_iff {items : Json} :
    Demands accept "items" items value ↔
      ∀ elements, value = .array elements → ∀ element ∈ elements, accept items element = true :=
  ⟨fun demands => demands.items rfl, fun each => ⟨by simp, fun _ => each, by simp, by simp⟩⟩

theorem demands_properties_iff {schemas : List (String × Json)} :
    Demands accept "properties" (.object schemas) value ↔
      ∀ members, value = .object members → ∀ property ∈ schemas, ∀ member ∈ members,
        member.1 = property.1 → accept property.2 member.2 = true := by
  constructor
  · exact fun demands members => demands.properties rfl schemas members rfl
  · refine fun each => ⟨by simp, by simp, fun _ other members same => ?_, by simp⟩
    cases same
    exact each members

theorem demands_required_iff {names : List String} :
    Demands accept "required" (.array (names.map .string)) value ↔
      ∀ members, value = .object members → ∀ name ∈ names, name ∈ members.map Prod.fst := by
  constructor
  · exact fun demands members => demands.required rfl names members rfl
  · refine fun every => ⟨by simp, by simp, by simp, fun _ others members same => ?_⟩
    have alike : names = others := by
      have injective : Function.Injective Json.string := fun _ _ => Json.string.inj
      exact injective.list_map (Json.array.inj same)
    exact alike ▸ every members

end Demands

/-! ## Schemas of one kind -/

section Kinds

variable {accept : Json → Json → Bool} {value : Json}

theorem hasType_string_iff : hasType "string" value = true ↔ ∃ text, value = .string text := by
  cases value <;> simp [hasType]

theorem hasType_array_iff :
    hasType "array" value = true ↔ ∃ elements, value = .array elements := by
  cases value <;> simp [hasType]

theorem hasType_object_iff :
    hasType "object" value = true ↔ ∃ members, value = .object members := by
  cases value <;> simp [hasType]

/-- The keywords of a schema for strings. -/
def stringKeywords (description : String) : List (String × Json) :=
  [("description", .string description), ("type", .string "string")]

theorem covered_stringKeywords (description : String) :
    ∀ keyword ∈ stringKeywords description, Covered keyword.1 keyword.2 := by
  simp only [stringKeywords, List.forall_mem_cons, List.not_mem_nil, false_implies, implies_true,
    and_true]
  exact ⟨.description _, .type (by simp)⟩

theorem Lawful.string_iff (lawful : Lawful accept) {description : String} :
    accept (.object (stringKeywords description)) value = true ↔ ∃ text, value = .string text := by
  rw [lawful.accept_iff _ _ (by simp [stringKeywords]) (covered_stringKeywords description),
    stringKeywords]
  simp only [List.forall_mem_cons, List.not_mem_nil, false_implies, implies_true, and_true,
    demands_type_iff, hasType_string_iff]
  exact and_iff_right (demands_of_other (by simp))

/-- The keywords of a schema for arrays, with its annotations. -/
def arrayKeywords (standard title description : String) (items : List (String × Json)) :
    List (String × Json) :=
  [("$schema", .string standard), ("title", .string title),
    ("description", .string description), ("type", .string "array"), ("items", .object items)]

theorem Lawful.array_iff (lawful : Lawful accept) {standard title description : String}
    {items : List (String × Json)}
    (covered : ∀ keyword ∈ items, Covered keyword.1 keyword.2) :
    accept (.object (arrayKeywords standard title description items)) value = true ↔
      ∃ elements, value = .array elements ∧
        ∀ element ∈ elements, accept (.object items) element = true := by
  have all : ∀ keyword ∈ arrayKeywords standard title description items,
      Covered keyword.1 keyword.2 := by
    simp only [arrayKeywords, List.forall_mem_cons, List.not_mem_nil, false_implies,
      implies_true, and_true]
    exact ⟨.standard _, .title _, .description _, .type (by simp), .items covered⟩
  rw [lawful.accept_iff _ _ (by simp [arrayKeywords]) all, arrayKeywords]
  simp only [List.forall_mem_cons, List.not_mem_nil, false_implies, implies_true, and_true,
    demands_type_iff, demands_items_iff, hasType_array_iff]
  constructor
  · rintro ⟨-, -, -, ⟨elements, rfl⟩, each⟩
    exact ⟨elements, rfl, each elements rfl⟩
  · rintro ⟨elements, rfl, each⟩
    refine ⟨demands_of_other (by simp), demands_of_other (by simp),
      demands_of_other (by simp), ⟨elements, rfl⟩, fun others same => ?_⟩
    cases same
    exact each

/-- The keywords of a schema for objects. -/
def objectKeywords (properties : List (String × List (String × Json)))
    (required : List String) : List (String × Json) :=
  [("type", .string "object"),
    ("properties", .object (properties.map fun schema => (schema.1, .object schema.2))),
    ("required", .array (required.map .string))]

section Object

variable {properties : List (String × List (String × Json))} {required : List String}

theorem covered_objectKeywords
    (covered : ∀ schema ∈ properties, ∀ keyword ∈ schema.2, Covered keyword.1 keyword.2) :
    ∀ keyword ∈ objectKeywords properties required, Covered keyword.1 keyword.2 := by
  simp only [objectKeywords, List.forall_mem_cons, List.not_mem_nil, false_implies, implies_true,
    and_true]
  exact ⟨.type (by simp), .properties covered, .required _⟩

theorem Lawful.object_iff (lawful : Lawful accept)
    (covered : ∀ schema ∈ properties, ∀ keyword ∈ schema.2, Covered keyword.1 keyword.2) :
    accept (.object (objectKeywords properties required)) value = true ↔
      ∃ members, value = .object members ∧
        (∀ schema ∈ properties, ∀ member ∈ members, member.1 = schema.1 →
          accept (.object schema.2) member.2 = true) ∧
        ∀ name ∈ required, name ∈ members.map Prod.fst := by
  rw [lawful.accept_iff _ _ (by simp [objectKeywords]) (covered_objectKeywords covered),
    objectKeywords]
  simp only [List.forall_mem_cons, List.not_mem_nil, false_implies, implies_true, and_true,
    demands_type_iff, demands_properties_iff, demands_required_iff, hasType_object_iff,
    List.forall_mem_map]
  constructor
  · rintro ⟨⟨members, rfl⟩, each, every⟩
    exact ⟨members, rfl, each members rfl, every members rfl⟩
  · rintro ⟨members, rfl, each, every⟩
    refine ⟨⟨members, rfl⟩, fun others same => ?_, fun others same => ?_⟩
    · cases same
      exact each
    · cases same
      exact every

end Object

end Kinds

/-! ## A lawful validator -/

mutual

/-- A schema that is no object asks nothing. -/
def accepts : Json → Json → Bool
  | .object keywords, value => meetsAll keywords value
  | _, _ => true

def meetsAll : List (String × Json) → Json → Bool
  | [], _ => true
  | (keyword, asks) :: rest, value => meets keyword asks value && meetsAll rest value

def meets : String → Json → Json → Bool
  | keyword, .string type, value => keyword != "type" || hasType type value
  | keyword, .array names, .object members =>
      keyword != "required" || names.all fun name =>
        match name with
        | .string text => (members.map Prod.fst).contains text
        | _ => true
  | keyword, .object items, .array elements =>
      keyword != "items" || elements.all fun element => meetsAll items element
  | keyword, .object properties, .object members =>
      keyword != "properties" || meetsEach properties members
  | _, _, _ => true

def meetsEach : List (String × Json) → List (String × Json) → Bool
  | [], _ => true
  | (name, schema) :: rest, members =>
      members.all (fun member => member.1 != name || accepts schema member.2) &&
        meetsEach rest members

end

end V2xRosDriver.Theory.JsonSchema
