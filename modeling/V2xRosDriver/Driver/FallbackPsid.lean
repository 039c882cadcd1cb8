/-
# Driver.FallbackPsid -- what a message without a psid is sent under

A type without an entry, or an id without one, is sent under its DSRCmsgID.  Both
transports print the id in decimal, and what they print is taken for a psid: UDP writes it
on the PSID line, where psids are hexadecimal, and MQTT hands it to `buildPublishTopic`,
which looks it up among the hexadecimal keys of the override map and then reads it in base
16.  An id of one digit comes through, every other arrives as another number
(`fallback_denotes_iff`).
-/
import V2xRosDriver.Driver.Outbound
import V2xRosDriver.Mqtt.EttifosPsid

namespace V2xRosDriver.Driver

set_option autoImplicit false

open V2xRosDriver.Theory.Numerals
open V2xRosDriver.Theory.Text
open V2xRosDriver.Radio
open V2xRosDriver.Mqtt

/-- The PSID line of a text holds `psid`.  It stands behind the lines of the version and of
the type the text was written for, wherever the type itself breaks its line. -/
def PsidLine (messageType : String) (text : List UInt8) (psid : String) : Prop :=
  newline ∉ bytesOf psid ∧
    ∃ later, text = unlines newline [bytesOf "Version=0.7", bytesOf ("Type=" ++ messageType)] ++
      bytesOf ("PSID=" ++ psid) ++ newline :: later

/-- What follows the last slash of a topic. -/
def lastComponent (topic : String) : String :=
  String.ofList ((topic.toList.splitOn '/').getLastD [])

/-- Packed without an entry, a message has a PSID line that denotes its DSRCmsgID. -/
def DefaultDenotes (table : List WaveConfigStruct) (message : ByteArrayMsg) : Prop :=
  ¬ KnownType table message →
    ∃ text psid, packMessage table message = .ok text ∧
      PsidLine message.messageType text psid ∧ stoi16 psid = .ok (headWord message.content : Int)

/-- Published without an entry, a message has a topic that ends in its DSRCmsgID. -/
def RawTopicDenotes (table : List WaveConfigStruct) (c : MqttRadioClient)
    (message : List UInt8) : Prop :=
  (∀ entry ∈ table, entry.dsrcMsgId ≠ toString (headWord message)) →
    ∃ topic, PublishesOn c message topic ∧
      (lastComponent topic).toInt? = some (headWord message : Int)

/-- The raw id, where the client falls back on it, is no key of the override map. -/
def RawIdNoKey (table : List WaveConfigStruct) (dsrcMsgId : Nat) : Prop :=
  firstPsid table (toString dsrcMsgId) = "" → ettifosOverride (toString dsrcMsgId) = none

/-! ## Digits -/

theorem headWord_lt (message : List UInt8) : headWord message < 65536 := by
  unfold headWord
  split
  · exact word_lt _ _
  · decide

theorem slash_notMem_toString (number : Int) : '/' ∉ (toString number).toList := by
  cases number with
  | ofNat n => exact fun printed => absurd (isDigit_of_mem_toString printed) (by decide)
  | negSucc n =>
      have shape : (toString (Int.negSucc n)).toList = '-' :: (toString (n + 1)).toList := by
        show ("-" ++ toString (n + 1)).toList = _
        rw [String.toList_append]
        rfl
      rw [shape, List.mem_cons]
      rintro (minus | printed)
      · exact absurd minus (by decide)
      · exact absurd (isDigit_of_mem_toString printed) (by decide)

/-- Two lines of one place: what stands in front of the first newline. -/
theorem line_unique {one two : List UInt8} {after later : List UInt8} (clean : newline ∉ one)
    (other : newline ∉ two) (same : one ++ newline :: after = two ++ newline :: later) :
    one = two := by
  have split := congrArg (·.splitOn newline) same
  simp only [List.splitOn_append_cons_self, List.splitOn_eq_singleton clean,
    List.splitOn_eq_singleton other, List.singleton_append, List.cons.injEq] at split
  exact split.1

/-! ## The PSID line -/

section Udp

variable {table : List WaveConfigStruct} {message : ByteArrayMsg}

/-- The PSID line of a message packed without an entry holds the id in decimal. -/
theorem psidLine_default_iff (unknown : ¬ KnownType table message) {psid : String} :
    PsidLine message.messageType
        (unlines newline (waveLines (entryFor table message) message.content)) psid ↔
      psid = toString (headWord message.content) := by
  have made : entryFor table message =
      defaultWaveItem message.messageType (headWord message.content) := by
    rw [knownType_iff, Option.not_isSome_iff_eq_none] at unknown
    rw [entryFor, unknown, Option.getD_none]
  obtain ⟨rest, lines⟩ : ∃ rest, waveLines (entryFor table message) message.content =
      [bytesOf "Version=0.7", bytesOf ("Type=" ++ message.messageType)] ++
        bytesOf ("PSID=" ++ toString (headWord message.content)) :: rest := by
    rw [made]
    exact ⟨_, rfl⟩
  have text : unlines newline (waveLines (entryFor table message) message.content) =
      unlines newline [bytesOf "Version=0.7", bytesOf ("Type=" ++ message.messageType)] ++
        bytesOf ("PSID=" ++ toString (headWord message.content)) ++
          newline :: unlines newline rest := by
    rw [lines]
    simp [unlines]
  constructor
  · rintro ⟨clean, later, same⟩
    rw [text, List.append_assoc, List.append_assoc, List.append_cancel_left_eq,
      bytesOf_append, bytesOf_append, List.append_assoc, List.append_assoc,
      List.append_cancel_left_eq] at same
    exact (bytesOf_inj.mp (line_unique (newline_notMem_toString _) clean same)).symm
  · rintro rfl
    exact ⟨newline_notMem_toString _, _, text⟩

/-- A PSID line denotes the id if there is an entry, or if the id has one digit. -/
theorem defaultDenotes_iff (long : 2 ≤ message.content.length) :
    DefaultDenotes table message ↔ KnownType table message ∨ headWord message.content < 10 := by
  have small : headWord message.content < 10 ^ 7 :=
    Nat.lt_trans (headWord_lt message.content) (by decide)
  unfold DefaultDenotes
  rw [packMessage_of_enough (Or.inr long)]
  by_cases known : KnownType table message
  · exact iff_of_true (fun unknown => absurd known unknown) (Or.inl known)
  · simp only [known, not_false_eq_true, forall_const, false_or]
    constructor
    · rintro ⟨text, psid, packed, line, denotes⟩
      obtain rfl := Except.ok.inj packed
      obtain rfl := (psidLine_default_iff known).mp line
      exact (stoi16_toString_eq_iff small).mp denotes
    · intro digit
      exact ⟨_, _, rfl, (psidLine_default_iff known).mpr rfl,
        (stoi16_toString_eq_iff small).mpr digit⟩

end Udp

/-! ## The topic -/

section Mqtt

variable {files : WaveFiles} {table : List WaveConfigStruct} {c : MqttRadioClient}

theorem lastComponent_topicOf (c : MqttRadioClient) (number : Int) :
    lastComponent (c.topicOf number) = toString number := by
  have shape : (c.topicOf number).toList =
      (c.mqttTopicPrefix ++ "/req/J2735").toList ++ '/' :: (toString number).toList := by
    simp [MqttRadioClient.topicOf]
  rw [lastComponent, shape, List.splitOn_append_cons_self,
    List.splitOn_eq_singleton (slash_notMem_toString number)]
  simp

/-- A string that is not the numeral of its own digits is no numeral at all. -/
theorem toString_beq_of_ne {key : String}
    (other : toString (Nat.ofDigitChars 10 key.toList 0) ≠ key) (n : Nat) :
    (toString n == key) = false := by
  rw [beq_eq_false_iff_ne]
  rintro rfl
  have digits : (toString n).toList = Nat.toDigits 10 n := Nat.toList_repr
  rw [digits, Nat.ofDigitChars_ten_toDigits] at other
  exact other rfl

/-- Among the keys of the override map only `8010` is a decimal numeral as well. -/
theorem ettifosOverride_toString (n : Nat) :
    ettifosOverride (toString n) = if n = 8010 then some 144 else none := by
  have sdsm : (toString n == "8010") = decide (n = 8010) := by
    rw [Bool.eq_iff_iff, beq_iff_eq, decide_eq_true_eq]
    exact @toString_nat_inj n 8010
  simp only [ettifosOverride, kEttifosPsidOverrides, List.lookup_cons, List.lookup_nil, sdsm,
    toString_beq_of_ne (show _ ≠ "0020" by decide), toString_beq_of_ne (show _ ≠ "0083" by decide),
    toString_beq_of_ne (show _ ≠ "0082" by decide), toString_beq_of_ne (show _ ≠ "0027" by decide),
    toString_beq_of_ne (show _ ≠ "BFEE" by decide)]
  by_cases same : n = 8010
  · simp [same]
  · simp [same]

/-- The number of a raw id is the id only for ids of one digit. -/
theorem decimalPsid_toString_eq_iff {n : Nat} (small : n < 10 ^ 7) :
    decimalPsid (toString n) = .ok (n : Int) ↔ n < 10 := by
  unfold decimalPsid
  rw [ettifosOverride_toString]
  by_cases same : n = 8010
  · subst same
    decide
  · rw [if_neg same]
    exact stoi16_toString_eq_iff small

theorem firstPsid_of_missing {dsrcMsgId : Nat}
    (missing : ∀ entry ∈ table, entry.dsrcMsgId ≠ toString dsrcMsgId) :
    firstPsid table (toString dsrcMsgId) = "" := by
  have none : table.find? (·.dsrcMsgId == toString dsrcMsgId) = none := by
    rw [List.find?_eq_none]
    intro entry member
    simpa using missing entry member
  rw [firstPsid, none]

/-- The topic ends in the id if there is an entry, or if the id has one digit. -/
theorem rawTopicDenotes_iff (loaded : Loaded files table c.toBaseRadioClient)
    (connected : c.session.connected = true) (owns : c.session.mosq.isSome = true)
    {message : List UInt8} (long : 2 ≤ message.length) :
    RawTopicDenotes table c message ↔
      (∃ entry ∈ table, entry.dsrcMsgId = toString (headWord message)) ∨
        headWord message < 10 := by
  have small : headWord message < 10 ^ 7 := Nat.lt_trans (headWord_lt message) (by decide)
  unfold RawTopicDenotes
  by_cases missing : ∀ entry ∈ table, entry.dsrcMsgId ≠ toString (headWord message)
  · have absent : ¬ ∃ entry ∈ table, entry.dsrcMsgId = toString (headWord message) :=
      fun ⟨entry, member, id⟩ => missing entry member id
    have raw : route table (headWord message) = toString (headWord message) := by
      rw [route, firstPsid_of_missing missing]
      rfl
    have published {topic : String} : PublishesOn c message topic ↔
        ∃ number, decimalPsid (toString (headWord message)) = .ok number ∧
          topic = c.topicOf number := by
      rw [← raw]
      exact publishesOn_iff connected owns long (psidToSend_of_loaded loaded _)
    rw [or_iff_right absent, ← decimalPsid_toString_eq_iff small]
    constructor
    · intro denotes
      obtain ⟨topic, sent, reads⟩ := denotes missing
      obtain ⟨number, numbered, rfl⟩ := published.mp sent
      rw [lastComponent_topicOf] at reads
      have value : number = headWord message :=
        Option.some.inj ((Int.toInt?_repr number).symm.trans reads)
      rw [numbered, value]
    · intro numbered _
      refine ⟨_, published.mpr ⟨_, numbered, rfl⟩, ?_⟩
      rw [lastComponent_topicOf]
      exact Int.toInt?_repr _
  · refine iff_of_true (fun all => absurd all missing) (Or.inl ?_)
    simpa using missing

theorem rawIdNoKey_iff {dsrcMsgId : Nat} :
    RawIdNoKey table dsrcMsgId ↔
      (firstPsid table (toString dsrcMsgId) = "" → dsrcMsgId ≠ 8010) := by
  unfold RawIdNoKey
  rw [ettifosOverride_toString]
  by_cases same : dsrcMsgId = 8010
  · simp [same]
  · simp [same]

/-- **Exactly when the fallback denotes the DSRCmsgID.**  A message that has an entry on both
transports is not concerned; one without is sent under its own id only if the id has a single
digit, and the id 8010, sent raw, is always taken for a psid of the override map. -/
theorem fallback_denotes_iff (loaded : Loaded files table c.toBaseRadioClient)
    (connected : c.session.connected = true) (owns : c.session.mosq.isSome = true)
    {message : ByteArrayMsg} (long : 2 ≤ message.content.length) :
    (DefaultDenotes table message ∧ RawTopicDenotes table c message.content ∧
        RawIdNoKey table (headWord message.content)) ↔
      (KnownType table message ∨ headWord message.content < 10) ∧
        ((∃ entry ∈ table, entry.dsrcMsgId = toString (headWord message.content)) ∨
          headWord message.content < 10) ∧
        (firstPsid table (toString (headWord message.content)) = "" →
          headWord message.content ≠ 8010) := by
  rw [defaultDenotes_iff long, rawTopicDenotes_iff loaded connected owns long, rawIdNoKey_iff]

/-- A message of a type and with an id the shipped table lacks: the id of an SRM is 29. -/
def srmMessage : ByteArrayMsg := ⟨"SRM", [0x00, 0x1D]⟩

theorem srmMessage_denotes_iff :
    (DefaultDenotes waveJson srmMessage ∧ RawTopicDenotes waveJson primedClient [0x00, 0x1D] ∧
        RawIdNoKey waveJson 29) ↔
      (KnownType waveJson srmMessage ∨ 29 < 10) ∧
        ((∃ entry ∈ waveJson, entry.dsrcMsgId = toString 29) ∨ 29 < 10) ∧
        (firstPsid waveJson (toString 29) = "" → 29 ≠ 8010) :=
  @fallback_denotes_iff shippedFiles waveJson primedClient primedClient_loaded (by decide)
    (by decide) srmMessage (by decide)

/-- An SRM leaves with `PSID=29`, which is 41, or on a topic that ends in 41; a message with
the id 8010 goes out on the topic of SDSM. -/
theorem srm_sent_as_41 :
    Loaded shippedFiles waveJson primedClient.toBaseRadioClient ∧
      ¬ KnownType waveJson srmMessage ∧
      (∃ text, packMessage waveJson srmMessage = .ok text ∧ PsidLine "SRM" text "29") ∧
      stoi16 "29" = .ok 41 ∧
      PublishesOn primedClient [0x00, 0x1D] "Ettifos/V2X/req/J2735/41" ∧
      PublishesOn primedClient [0x1F, 0x4A] "Ettifos/V2X/req/J2735/144" ∧
      ¬ DefaultDenotes waveJson srmMessage ∧
      ¬ RawTopicDenotes waveJson primedClient [0x00, 0x1D] ∧ ¬ RawIdNoKey waveJson 8010 := by
  have unknown : ¬ KnownType waveJson srmMessage := by decide
  have line := (psidLine_default_iff unknown).mpr rfl
  refine ⟨primedClient_loaded, unknown,
    ⟨_, packMessage_of_enough (Or.inr (by decide)), line⟩, by decide, ?_, ?_, ?_, ?_, ?_⟩
  · intro accepted
    cases accepted <;> decide
  · intro accepted
    cases accepted <;> decide
  · rw [defaultDenotes_iff (by decide)]
    decide
  · rw [rawTopicDenotes_iff primedClient_loaded (by decide) (by decide) (by decide)]
    decide
  · rw [rawIdNoKey_iff]
    decide

end Mqtt

end V2xRosDriver.Driver
