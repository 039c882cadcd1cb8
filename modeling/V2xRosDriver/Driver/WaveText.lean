/-
# Driver.WaveText -- the WAVE text of a message, read back

The text of a message is twelve lines `key=value`.  Splitting it at the newlines gives the
message type and the content back, as long as nothing that was written into a line holds a
newline.  The digits of the payload never do and the strings of the table are taken not to;
the message type comes from another node, and nothing checks it: a newline in it ends the
line early and makes more lines (`packMessage_readsBack_iff`).
-/
import V2xRosDriver.Driver.Outbound

namespace V2xRosDriver.Driver

set_option autoImplicit false

open V2xRosDriver.Theory.Text
open V2xRosDriver.Radio

/-- The byte between a key and its value. -/
def equalsSign : UInt8 := 61

/-- The pairs of key and value a text holds, line by line. -/
def fields (text : List UInt8) : List (List UInt8 × List UInt8) :=
  (text.splitOn newline).dropLast.map (splitField equalsSign)

/-- The value of the first field with that key. -/
def valueOf (text : List UInt8) (key : String) : Option (List UInt8) :=
  (fields text).lookup (bytesOf key)

/-- The keys of a WAVE text, in their order. -/
def waveKeys : List (List UInt8) :=
  ["Version", "Type", "PSID", "Priority", "TxMode", "TxChannel", "TxInterval", "DeliveryStart",
    "DeliveryStop", "Signature", "Encryption", "Payload"].map bytesOf

/-- Read back, the text is the message: its last line is ended, the lines have the twelve keys,
and the fields that vary have the values of the message and of its entry. -/
structure ReadsBack (items : List WaveConfigStruct) (message : ByteArrayMsg)
    (text : List UInt8) : Prop where
  ended : (text.splitOn newline).getLast? = some []
  keys : (fields text).map Prod.fst = waveKeys
  type : valueOf text "Type" = some (bytesOf message.messageType)
  psid : valueOf text "PSID" = some (bytesOf (entryFor items message).psid)
  priority : valueOf text "Priority" = some (bytesOf (entryFor items message).priority)
  channel : valueOf text "TxChannel" = some (bytesOf (entryFor items message).channel)
  payload : (valueOf text "Payload").bind decodeHex = some message.content

/-- No string of the entry holds a newline. -/
def CleanEntry (entry : WaveConfigStruct) : Prop :=
  newline ∉ bytesOf entry.name ∧ newline ∉ bytesOf entry.psid ∧
    newline ∉ bytesOf entry.priority ∧ newline ∉ bytesOf entry.channel

instance (entry : WaveConfigStruct) : Decidable (CleanEntry entry) :=
  inferInstanceAs (Decidable (_ ∧ _))

/-! ## Lines and fields -/

/-- The fields written for an entry and a content. -/
def waveFields (cfg : WaveConfigStruct) (content : List UInt8) :
    List (List UInt8 × List UInt8) :=
  [ (bytesOf "Version", bytesOf "0.7"),
    (bytesOf "Type", bytesOf cfg.name),
    (bytesOf "PSID", bytesOf cfg.psid),
    (bytesOf "Priority", bytesOf cfg.priority),
    (bytesOf "TxMode", bytesOf "ALT"),
    (bytesOf "TxChannel", bytesOf cfg.channel),
    (bytesOf "TxInterval", bytesOf "0"),
    (bytesOf "DeliveryStart", []),
    (bytesOf "DeliveryStop", []),
    (bytesOf "Signature", bytesOf "False"),
    (bytesOf "Encryption", bytesOf "False"),
    (bytesOf "Payload", content.flatMap twoDigits) ]

theorem uint8VectorToHexString_eq (v : List UInt8) :
    uint8VectorToHexString v = v.flatMap twoDigits := by
  simp only [uint8VectorToHexString, leftpad_toDigits]

theorem waveLines_eq (cfg : WaveConfigStruct) (content : List UInt8) :
    waveLines cfg content =
      (waveFields cfg content).map fun field => field.1 ++ equalsSign :: field.2 := by
  unfold waveLines
  simp only [bytesOf_append, uint8VectorToHexString_eq]
  rfl

theorem newline_not_mem_digits (content : List UInt8) :
    newline ∉ content.flatMap twoDigits := by
  intro member
  exact absurd (ge_of_mem_twoDigits member) (by decide)

/-- The lines of a clean entry hold no newline. -/
theorem waveLines_clean {cfg : WaveConfigStruct} (clean : CleanEntry cfg)
    (content : List UInt8) : ∀ line ∈ waveLines cfg content, newline ∉ line := by
  obtain ⟨name, psid, priority, channel⟩ := clean
  have appended {key value : List UInt8} (first : newline ∉ key) (second : newline ∉ value) :
      newline ∉ key ++ value := by
    simp [first, second]
  unfold waveLines
  simp only [bytesOf_append, uint8VectorToHexString_eq, List.forall_mem_cons]
  refine ⟨by decide, appended (by decide) name, appended (by decide) psid,
    appended (by decide) priority, by decide, appended (by decide) channel, by decide, by decide,
    by decide, by decide, by decide, appended (by decide) (newline_not_mem_digits content), ?_⟩
  simp

/-- A clean entry's text is split into the fields that were written. -/
theorem fields_unlines {cfg : WaveConfigStruct} (clean : CleanEntry cfg)
    (content : List UInt8) :
    fields (unlines newline (waveLines cfg content)) = waveFields cfg content := by
  have keys : ∀ field ∈ waveFields cfg content, equalsSign ∉ field.1 := by
    unfold waveFields
    simp only [List.forall_mem_cons]
    refine ⟨?_, ?_, ?_, ?_, ?_, ?_, ?_, ?_, ?_, ?_, ?_, ?_, by simp⟩ <;> decide
  have cut : ∀ field ∈ waveFields cfg content,
      splitField equalsSign (field.1 ++ equalsSign :: field.2) = field := by
    intro field member
    rw [splitField_append (keys field member)]
  unfold fields
  rw [splitOn_unlines, flatMap_splitOn_of_clean (waveLines_clean clean content),
    List.dropLast_concat, waveLines_eq, List.map_map]
  exact List.map_congr_left cut |>.trans (List.map_id _)

/-! ## Reading back -/

section ReadBack

variable {items : List WaveConfigStruct} {message : ByteArrayMsg}

/-- The entry of a type without a newline is clean, with a clean table. -/
theorem entryFor_clean (table : ∀ entry ∈ items, CleanEntry entry)
    (type : newline ∉ bytesOf message.messageType) : CleanEntry (entryFor items message) := by
  unfold entryFor
  cases found : items.find? (·.name == message.messageType) with
  | some entry => exact table entry (List.mem_of_find?_eq_some found)
  | none =>
      exact ⟨type, newline_notMem_toString _, (show newline ∉ bytesOf "1" by decide),
        (show newline ∉ bytesOf "CCH" by decide)⟩

/-- The entry of a message has its type for a name, found or made up. -/
theorem entryFor_name (items : List WaveConfigStruct) (message : ByteArrayMsg) :
    (entryFor items message).name = message.messageType := by
  unfold entryFor
  cases found : items.find? (·.name == message.messageType) with
  | some entry =>
      have same := List.find?_some found
      exact eq_of_beq same
  | none => rfl

theorem readsBack_of_clean (clean : CleanEntry (entryFor items message)) :
    ReadsBack items message
      (unlines newline (waveLines (entryFor items message) message.content)) := by
  have read := fields_unlines clean message.content
  refine ⟨?_, ?_, ?_, ?_, ?_, ?_, ?_⟩
  · rw [splitOn_unlines, List.getLast?_concat]
  · rw [read]
    rfl
  · rw [valueOf, read, ← entryFor_name items message]
    rfl
  · rw [valueOf, read]
    rfl
  · rw [valueOf, read]
    rfl
  · rw [valueOf, read]
    rfl
  · rw [valueOf, read]
    exact decodeHex_flatMap_twoDigits message.content

/-- **Exactly when the text is the message again.**  With a table whose strings hold no newline
and a content of at least two bytes, a message is packed into a text that is read back as the
message if and only if its type holds no newline. -/
theorem packMessage_readsBack_iff (table : ∀ entry ∈ items, CleanEntry entry)
    (long : 2 ≤ message.content.length) :
    (∃ text, packMessage items message = .ok text ∧ ReadsBack items message text) ↔
      newline ∉ bytesOf message.messageType := by
  rw [packMessage_of_enough (Or.inr long)]
  constructor
  · rintro ⟨text, packed, readsBack⟩ injected
    obtain rfl := Except.ok.inj packed
    have line : bytesOf ("Type=" ++ (entryFor items message).name) ∈
        waveLines (entryFor items message) message.content := by
      simp [waveLines]
    have broken : newline ∈ bytesOf ("Type=" ++ (entryFor items message).name) := by
      rw [entryFor_name, bytesOf_append]
      exact List.mem_append_right _ injected
    have more := lt_length_flatMap_splitOn line broken
    have count := congrArg List.length readsBack.keys
    rw [fields, splitOn_unlines, List.dropLast_concat, List.length_map, List.length_map] at count
    have twelve : (waveLines (entryFor items message) message.content).length = 12 := rfl
    have known : waveKeys.length = 12 := rfl
    omega
  · intro type
    exact ⟨_, rfl, readsBack_of_clean (entryFor_clean table type)⟩

/-- What is read back determines the message: two messages with one text are the same. -/
theorem ReadsBack.unique {other : ByteArrayMsg} {text : List UInt8}
    (first : ReadsBack items message text) (second : ReadsBack items other text) :
    message = other := by
  have type : message.messageType = other.messageType :=
    bytesOf_inj.mp (Option.some.inj (first.type.symm.trans second.type))
  have content : message.content = other.content :=
    Option.some.inj (first.payload.symm.trans second.payload)
  cases message
  cases other
  simp only at type content
  rw [type, content]

/-- A BSM, packed with the installed table. -/
theorem bsm_readsBack_iff :
    (∃ text, packMessage waveJson ⟨"BSM", [0x00, 0x14, 0x01, 0xff]⟩ = .ok text ∧
        ReadsBack waveJson ⟨"BSM", [0x00, 0x14, 0x01, 0xff]⟩ text) ↔
      newline ∉ bytesOf "BSM" :=
  packMessage_readsBack_iff (by decide) (by decide)

/-- A type with a newline in it writes a field of its own: the text has a line `PSID=ffff` in
front of the one the node wrote, and thirteen lines in all. -/
theorem type_injects_field :
    (∀ entry ∈ waveJson, CleanEntry entry) ∧
      ∃ text, packMessage waveJson ⟨"X\nPSID=ffff", [0x00, 0x14]⟩ = .ok text ∧
        (fields text).length = 13 ∧ valueOf text "Type" = some (bytesOf "X") ∧
        valueOf text "PSID" = some (bytesOf "ffff") ∧
        ¬ ReadsBack waveJson ⟨"X\nPSID=ffff", [0x00, 0x14]⟩ text := by
  refine ⟨by decide, _, rfl, by decide, by decide, by decide, ?_⟩
  intro readsBack
  exact absurd (congrArg List.length readsBack.keys) (by decide)

end ReadBack

end V2xRosDriver.Driver
