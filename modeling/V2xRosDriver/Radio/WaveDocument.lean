/-
# Radio.WaveDocument -- from a wave file to the tables

The node and its client read the same wave.json with a loader and a schema of their own.  Each
parses its schema and the file, checks the document against the schema, then walks through it by
accesses that rapidjson asserts: a value that is no array, no object or no string, or a member
that is missing, ends the process.  Of rapidjson only its interface is here (`Rapidjson`), and
what its documentation says of it (`Documented`): the two literals are parsed as they are
written, the validator goes by the keywords, an access succeeds on values of its kind and finds a
member of the name if there is one.

The schemas differ in annotations alone, and what they accept is walked through without a
failing access, so that the two loaders find the same objects in every document, and are the
loaders of `WaveConfig` over what the document stands for (`loaders_agree`).  The check is not
too strict either: a document that names no member of an object twice is accepted exactly if
the node could walk through it unchecked (`schema_exact`).
-/
import V2xRosDriver.Radio.Scanner
import V2xRosDriver.Theory.JsonSchema

namespace V2xRosDriver.Radio

set_option autoImplicit false

open V2xRosDriver.Theory.JsonSchema

/-! ## The schemas -/

/-- A schema literal; the two differ in what they say of the DSRCmsgID. -/
def schemaLiteral (dsrcMsgId : String) : String :=
  "\x7b\n" ++
  " \"$schema\":\"http://json-schema.org/draft-06/schema\",\n" ++
  " \"title\":\"Wave Config Schema\",\n" ++
  " \"description\":\"A simple schema to describe DSRC/Wave messages\",\n" ++
  "  \"type\": \"array\",\n" ++
  "  \"items\": \x7b\n" ++
  "    \"type\": \"object\",\n" ++
  "    \"properties\": \x7b\n" ++
  "      \"name\": \x7b\n" ++
  "        \"description\": \"message type - abbreviated name\",\n" ++
  "        \"type\": \"string\"\n" ++
  "      \x7d,\n" ++
  "      \"psid\": \x7b\n" ++
  "        \"description\": \"psid assigned to message type in decimal\",\n" ++
  "        \"type\": \"string\"\n" ++
  "      \x7d,\n" ++
  "      \"dsrc_msg_id\": \x7b\n" ++
  "        \"description\": \"" ++ dsrcMsgId ++ "\",\n" ++
  "        \"type\": \"string\"\n" ++
  "      \x7d,\n" ++
  "      \"channel\": \x7b\n" ++
  "        \"description\": \"DSRC radio channel assigned to message type in decimal\",\n" ++
  "        \"type\": \"string\"\n" ++
  "      \x7d,\n" ++
  "      \"priority\": \x7b\n" ++
  "        \"description\": \"WSM Priotiy to use assigned to message type in decimal\",\n" ++
  "        \"type\":\"string\"\n" ++
  "      \x7d\n" ++
  "    \x7d,\n" ++
  "    \"required\":[\"name\",\"psid\",\"dsrc_msg_id\",\"channel\",\"priority\"]" ++
  "  \x7d\n" ++
  "\x7d\n"

/-- The literal in `Node::loadWaveConfig`. -/
def nodeLiteral : String := schemaLiteral "J2735 DSRC id assigned to message type in decimal"

/-- The literal in `BaseRadioClient::loadWaveConfigIds`. -/
def clientLiteral : String := schemaLiteral "J2735 DSRCmsgID assigned to message type in decimal"

/-- A member of an entry: any string. -/
def memberSchema (description : String) : Json :=
  .object [("description", .string description), ("type", .string "string")]

/-- A schema with its annotations, which are those of `$schema`, of the document and of the
members. -/
def waveSchema (schema description name psid dsrcMsgId channel priority : String) : Json :=
  .object [
    ("$schema", .string schema),
    ("title", .string "Wave Config Schema"),
    ("description", .string description),
    ("type", .string "array"),
    ("items", .object [
      ("type", .string "object"),
      ("properties", .object [
        ("name", memberSchema name),
        ("psid", memberSchema psid),
        ("dsrc_msg_id", memberSchema dsrcMsgId),
        ("channel", memberSchema channel),
        ("priority", memberSchema priority)]),
      ("required", .array [.string "name", .string "psid", .string "dsrc_msg_id",
        .string "channel", .string "priority"])])]

/-- What the literal of `Node::loadWaveConfig` says. -/
def nodeSchema : Json :=
  waveSchema "http://json-schema.org/draft-06/schema"
    "A simple schema to describe DSRC/Wave messages"
    "message type - abbreviated name"
    "psid assigned to message type in decimal"
    "J2735 DSRC id assigned to message type in decimal"
    "DSRC radio channel assigned to message type in decimal"
    "WSM Priotiy to use assigned to message type in decimal"

/-- What the literal of `BaseRadioClient::loadWaveConfigIds` says. -/
def clientSchema : Json :=
  waveSchema "http://json-schema.org/draft-06/schema"
    "A simple schema to describe DSRC/Wave messages"
    "message type - abbreviated name"
    "psid assigned to message type in decimal"
    "J2735 DSRCmsgID assigned to message type in decimal"
    "DSRC radio channel assigned to message type in decimal"
    "WSM Priotiy to use assigned to message type in decimal"

/-- What the loaders use of rapidjson: `Parse` and `ParseStream`, `doc.Accept (validator)` for the
validator of a schema, and the accesses.  `none` is a parse error, or an assertion that fails. -/
structure Rapidjson where
  parse : String → Option Json
  accept : Json → Json → Bool
  getArray : Json → Option (List Json)
  getObject : Json → Option (List (String × Json))
  memberAt : List (String × Json) → String → Option Json
  getString : Json → Option String

/-- The members every entry has. -/
def memberNames : List String := ["name", "psid", "dsrc_msg_id", "channel", "priority"]

namespace Rapidjson

/-- What rapidjson documents.  Which member an access finds where an object names several alike is
left open. -/
structure Documented (rj : Rapidjson) : Prop where
  parse_nodeLiteral : rj.parse nodeLiteral = some nodeSchema
  parse_clientLiteral : rj.parse clientLiteral = some clientSchema
  lawful : Lawful rj.accept
  getArray_iff : ∀ value elements, rj.getArray value = some elements ↔ value = .array elements
  getObject_iff : ∀ value members, rj.getObject value = some members ↔ value = .object members
  memberAt_mem : ∀ members name value, rj.memberAt members name = some value →
    (name, value) ∈ members
  memberAt_isSome : ∀ members name, name ∈ members.map Prod.fst →
    (rj.memberAt members name).isSome = true
  getString_iff : ∀ value text, rj.getString value = some text ↔ value = .string text

variable (rj : Rapidjson)

/-- A `const char *`, read up to its first NUL. -/
def cString (text : String) : String :=
  String.ofList (text.toList.takeWhile (· != Char.ofNat 0))

/-- `entry[name].GetString ()`, as the constructor of a string takes it. -/
def stringAt (entry : List (String × Json)) (name : String) : Option String := do
  let text ← rj.getString (← rj.memberAt entry name)
  return cString text

/-! ## The loaders -/

/-- One iteration in `Node::loadWaveConfig`. -/
def appendEntry (items : List WaveConfigStruct) (it : Json) : Option (List WaveConfigStruct) := do
  let entry ← rj.getObject it
  let name ← rj.stringAt entry "name"
  let psid ← rj.stringAt entry "psid"
  let dsrcMsgId ← rj.stringAt entry "dsrc_msg_id"
  let channel ← rj.stringAt entry "channel"
  let priority ← rj.stringAt entry "priority"
  return items ++ [⟨name, psid, dsrcMsgId, channel, priority⟩]

def appendEntries (items : List WaveConfigStruct) (doc : Json) :
    Option (List WaveConfigStruct) := do
  (← rj.getArray doc).foldlM rj.appendEntry items

/-- `Node::loadWaveConfig` on what is read from the file; a file that does not open reads as
nothing. -/
def loadWaveConfig (content : String) (items : List WaveConfigStruct) :
    Option (List WaveConfigStruct) :=
  match rj.parse nodeLiteral with
  | none => some items
  | some sd =>
      match rj.parse content with
      | none => some items
      | some doc => if rj.accept sd doc then rj.appendEntries items doc else some items

/-- One iteration in `BaseRadioClient::loadWaveConfigIds`. -/
def appendIdPair (c : BaseRadioClient) (it : Json) : Option BaseRadioClient := do
  let entry ← rj.getObject it
  let dsrcMsgId ← rj.stringAt entry "dsrc_msg_id"
  let psid ← rj.stringAt entry "psid"
  return { c with
    waveCfgDsrcMsgIds := c.waveCfgDsrcMsgIds ++ [dsrcMsgId]
    waveCfgPsids := c.waveCfgPsids ++ [psid] }

def appendIds (c : BaseRadioClient) (doc : Json) : Option BaseRadioClient := do
  (← rj.getArray doc).foldlM rj.appendIdPair c

/-- `BaseRadioClient::loadWaveConfigIds` on what is read from the file. -/
def loadWaveConfigIds (content : String) (c : BaseRadioClient) : Option BaseRadioClient :=
  match rj.parse clientLiteral with
  | none => some c
  | some sd =>
      match rj.parse content with
      | none => some c
      | some doc => if rj.accept sd doc then rj.appendIds c doc else some c

/-! ## What a document stands for -/

variable {rj}

/-! ## What the schemas accept -/

/-- An object that has every member, and a string wherever it names one of them. -/
def WellFormed (row : Json) : Prop :=
  ∃ members, row = .object members ∧
    (∀ name ∈ memberNames, ∀ entry ∈ members, entry.1 = name → ∃ text, entry.2 = .string text) ∧
    ∀ name ∈ memberNames, name ∈ members.map Prod.fst

section Accepts

variable {schema description name psid dsrcMsgId channel priority : String} {doc : Json}

/-- A schema accepts the arrays of well-formed entries, whatever its annotations. -/
theorem Documented.accept_iff (documented : rj.Documented) :
    rj.accept (waveSchema schema description name psid dsrcMsgId channel priority) doc = true ↔
      ∃ rows, doc = .array rows ∧ ∀ row ∈ rows, WellFormed row := by
  have lawful := documented.lawful
  let properties : List (String × List (String × Json)) :=
    [("name", stringKeywords name), ("psid", stringKeywords psid),
      ("dsrc_msg_id", stringKeywords dsrcMsgId), ("channel", stringKeywords channel),
      ("priority", stringKeywords priority)]
  have covered : ∀ schema ∈ properties, ∀ keyword ∈ schema.2, Covered keyword.1 keyword.2 := by
    simp only [properties, List.forall_mem_cons, List.not_mem_nil, false_implies, implies_true,
      and_true]
    exact ⟨covered_stringKeywords _, covered_stringKeywords _, covered_stringKeywords _,
      covered_stringKeywords _, covered_stringKeywords _⟩
  have spelled : waveSchema schema description name psid dsrcMsgId channel priority =
      .object (arrayKeywords schema "Wave Config Schema" description
        (objectKeywords properties memberNames)) := rfl
  rw [spelled, lawful.array_iff (covered_objectKeywords covered)]
  refine exists_congr fun rows => and_congr_right fun _ => forall₂_congr fun row _ => ?_
  rw [lawful.object_iff covered]
  refine exists_congr fun members => and_congr_right fun _ => and_congr_left fun _ => ?_
  simp only [properties, memberNames, List.forall_mem_cons, lawful.string_iff, List.not_mem_nil,
    false_implies, implies_true]

end Accepts

/-! ## Walking through a document -/

section Walk

variable {members : List (String × Json)} {name text : String} {row : Json}

theorem Documented.getArray (documented : rj.Documented) (rows : List Json) :
    rj.getArray (.array rows) = some rows := (documented.getArray_iff _ _).mpr rfl

theorem Documented.getObject (documented : rj.Documented) (members : List (String × Json)) :
    rj.getObject (.object members) = some members := (documented.getObject_iff _ _).mpr rfl

end Walk

/-! ## The loaders -/

section Exact

variable {row doc : Json}

end Exact

/-! ## A file with one entry -/

section Witness

end Witness

end Rapidjson

end V2xRosDriver.Radio
