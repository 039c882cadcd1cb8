/-
# Mqtt.EttifosPsid -- the override map and the message types it is meant for

Each row of the override map is meant for a message type, but it is keyed by the type's
psid.  MAP and SPAT share the psid 0082, and of the two rows with that key only the first,
MAP's, is ever found: SPAT is published as MAP.  `RoutedRight` says which psids route a
message type right, and `mapped_topic_iff` that the client routes it right with those
psids and no others.
-/
import V2xRosDriver.Mqtt.Routing

namespace V2xRosDriver.Mqtt

set_option autoImplicit false

open V2xRosDriver.Theory.Numerals
open V2xRosDriver.Radio

/-- The override row meant for a message type, as the comments of the map name it. -/
def ettifosRow : Nat → Option (String × Int)
  | 20 => some ("0020", 32)        -- BSM
  | 31 => some ("0083", 131)       -- TIM
  | 18 => some ("0082", 2113687)   -- MAP
  | 19 => some ("0082", 130)       -- SPAT
  | 41 => some ("8010", 144)       -- SDSM
  | 32 => some ("0027", 39)        -- PSM
  | 240 | 241 | 242 | 243 => some ("BFEE", 16494)  -- Mobility Messages
  | _ => none

/-- The number a message type with this psid is meant to be published under. -/
def intendedNumber (dsrcMsgId : Nat) (psid : String) : Int :=
  match ettifosRow dsrcMsgId with
  | some (_, number) => number
  | none => hexValue psid.toList

/-- The psid routes the message type right: with a row, it is the key of that row and the row
is not SPAT's, or it is no key and has the row's number; without one, it is no key whose row
changes the number. -/
def RoutedRight (dsrcMsgId : Nat) (psid : String) : Prop :=
  match ettifosRow dsrcMsgId with
  | some (key, number) =>
      (psid = key ∧ dsrcMsgId ≠ 19) ∨
        (psid ∉ kEttifosPsidOverrides.map (·.1) ∧ (hexValue psid.toList : Int) = number)
  | none => psid ∉ ["0082", "8010", "BFEE"]

theorem ettifosOverride_none_iff {psid : String} :
    ettifosOverride psid = none ↔ psid ∉ kEttifosPsidOverrides.map (·.1) := by
  rw [ettifosOverride, List.lookup_eq_none_iff]
  simp [kEttifosPsidOverrides]

/-- The rows a lookup can find: the second row of the key 0082 is not among them. -/
theorem ettifosOverride_some_iff {psid : String} {number : Int} :
    ettifosOverride psid = some number ↔
      (psid, number) ∈ ([("0020", 32), ("0083", 131), ("0082", 2113687), ("8010", 144),
        ("0027", 39), ("BFEE", 16494)] : List (String × Int)) := by
  by_cases key : psid ∈ kEttifosPsidOverrides.map (·.1)
  · simp only [kEttifosPsidOverrides, List.map_cons, List.map_nil, List.mem_cons,
      List.not_mem_nil, or_false] at key
    rcases key with rfl | rfl | rfl | rfl | rfl | rfl | rfl <;>
      simp [ettifosOverride, kEttifosPsidOverrides, List.lookup, eq_comm]
  · rw [ettifosOverride_none_iff.mpr key]
    simp only [kEttifosPsidOverrides, List.map_cons, List.map_nil, List.mem_cons,
      List.not_mem_nil, or_false, not_or] at key
    simp [key]

/-- What a plain numeral is published under. -/
theorem decimalPsid_ok_iff {psid : String} (numeral : IsNumeral psid) {number : Int} :
    decimalPsid psid = .ok number ↔
      ettifosOverride psid = some number ∨
        psid ∉ kEttifosPsidOverrides.map (·.1) ∧ (hexValue psid.toList : Int) = number := by
  rw [← ettifosOverride_none_iff]
  unfold decimalPsid
  cases ettifosOverride psid with
  | none => simp [stoi16_of_numeral numeral]
  | some override => simp

/-- A lookup finds the number of a row by its own key only, and SPAT's by none. -/
theorem override_of_row {dsrcMsgId : Nat} {key psid : String} {number : Int}
    (row : ettifosRow dsrcMsgId = some (key, number)) :
    ettifosOverride psid = some number ↔ psid = key ∧ dsrcMsgId ≠ 19 := by
  rw [ettifosOverride_some_iff]
  unfold ettifosRow at row
  split at row <;> simp only [Option.some.injEq, Prod.mk.injEq, reduceCtorEq] at row <;>
    obtain ⟨rfl, rfl⟩ := row <;> simp

/-- Three keys have rows that change the number; every other psid keeps its own. -/
theorem override_harmless_iff (psid : String) :
    ettifosOverride psid = some (hexValue psid.toList : Int) ∨
        psid ∉ kEttifosPsidOverrides.map (·.1) ↔ psid ∉ ["0082", "8010", "BFEE"] := by
  by_cases key : psid ∈ kEttifosPsidOverrides.map (·.1)
  · simp only [kEttifosPsidOverrides, List.map_cons, List.map_nil, List.mem_cons,
      List.not_mem_nil, or_false] at key
    rcases key with rfl | rfl | rfl | rfl | rfl | rfl | rfl <;> decide
  · have other := key
    simp only [kEttifosPsidOverrides, List.map_cons, List.map_nil, List.mem_cons,
      List.not_mem_nil, or_false, not_or] at other
    simp [key, other]

/-- One message type, one psid: the number a type is published under is the intended one
exactly when its psid routes it right. -/
theorem decimalPsid_intended_iff {dsrcMsgId : Nat} {psid : String} (numeral : IsNumeral psid) :
    decimalPsid psid = .ok (intendedNumber dsrcMsgId psid) ↔ RoutedRight dsrcMsgId psid := by
  rw [decimalPsid_ok_iff numeral]
  unfold intendedNumber RoutedRight
  cases row : ettifosRow dsrcMsgId with
  | some found =>
      obtain ⟨key, number⟩ := found
      simp only [override_of_row row]
  | none =>
      show ettifosOverride psid = some (hexValue psid.toList : Int) ∨
        psid ∉ kEttifosPsidOverrides.map (·.1) ∧
          (hexValue psid.toList : Int) = (hexValue psid.toList : Int) ↔ _
      rw [← override_harmless_iff]
      simp

section Rows

variable {files : WaveFiles} {table : List WaveConfigStruct} {c : MqttRadioClient}

/-- With distinct DSRCmsgIDs the entry of an id is the one the lookup finds. -/
theorem route_of_mem (distinct : (table.map (·.dsrcMsgId)).Nodup) {entry : WaveConfigStruct}
    (member : entry ∈ table) (numeral : IsNumeral entry.psid) {dsrcMsgId : Nat}
    (id : entry.dsrcMsgId = toString dsrcMsgId) : route table dsrcMsgId = entry.psid := by
  have found : table.find? (·.dsrcMsgId == toString dsrcMsgId) = some entry := by
    induction table with
    | nil => cases member
    | cons first rest ih =>
        simp only [List.map_cons, List.nodup_cons] at distinct
        rw [List.mem_cons] at member
        by_cases here : first.dsrcMsgId = toString dsrcMsgId
        · rcases member with rfl | later
          · simp [here]
          · exact absurd (List.mem_map.mpr ⟨entry, later, id.trans here.symm⟩) distinct.1
        · rcases member with rfl | later
          · exact absurd id here
          · rw [List.find?_cons_of_neg (by simpa using here)]
            exact ih distinct.2 later
  have psid : firstPsid table (toString dsrcMsgId) = entry.psid := by rw [firstPsid, found]
  have nonempty : entry.psid.isEmpty = false := by
    rw [Bool.eq_false_iff]
    intro empty
    have length := numeral.1
    rw [String.isEmpty_iff.mp empty] at length
    simp at length
  rw [route, psid, nonempty]
  rfl

/-- A connected client with tables publishes a configured type under the number of its psid. -/
theorem publishesOn_topicOf_iff (loaded : Loaded files table c.toBaseRadioClient)
    (connected : c.session.connected = true) (owns : c.session.mosq.isSome = true)
    (distinct : (table.map (·.dsrcMsgId)).Nodup) {message : List UInt8}
    (long : 2 ≤ message.length) {entry : WaveConfigStruct} (member : entry ∈ table)
    (numeral : IsNumeral entry.psid) (id : entry.dsrcMsgId = toString (headWord message))
    {number : Int} :
    PublishesOn c message (c.topicOf number) ↔ decimalPsid entry.psid = .ok number := by
  rw [publishesOn_iff connected owns long (psidToSend_of_loaded loaded _),
    route_of_mem distinct member numeral id]
  simp [topicOf_inj]

/-- **Exactly when the mapped types are routed right.**  Two configured messages are both
published under the numbers meant for their types, and types listed with different numbers
never on one topic, if and only if the psids of both route them right. -/
theorem mapped_topic_iff (loaded : Loaded files table c.toBaseRadioClient)
    (connected : c.session.connected = true) (owns : c.session.mosq.isSome = true)
    (distinct : (table.map (·.dsrcMsgId)).Nodup) (numerals : ∀ entry ∈ table, IsNumeral entry.psid)
    {first second : List UInt8} (firstLong : 2 ≤ first.length) (secondLong : 2 ≤ second.length)
    {one two : WaveConfigStruct} (oneMember : one ∈ table) (twoMember : two ∈ table)
    (oneId : one.dsrcMsgId = toString (headWord first))
    (twoId : two.dsrcMsgId = toString (headWord second)) :
    (PublishesOn c first (c.topicOf (intendedNumber (headWord first) one.psid)) ∧
        PublishesOn c second (c.topicOf (intendedNumber (headWord second) two.psid)) ∧
        ∀ oneRow twoRow, ettifosRow (headWord first) = some oneRow →
          ettifosRow (headWord second) = some twoRow → oneRow.2 ≠ twoRow.2 →
          ¬ ∃ topic, PublishesOn c first topic ∧ PublishesOn c second topic) ↔
      RoutedRight (headWord first) one.psid ∧ RoutedRight (headWord second) two.psid := by
  have oneNumeral := numerals one oneMember
  have twoNumeral := numerals two twoMember
  have oneTopic {number : Int} :
      PublishesOn c first (c.topicOf number) ↔ decimalPsid one.psid = .ok number :=
    publishesOn_topicOf_iff loaded connected owns distinct firstLong oneMember oneNumeral oneId
  have twoTopic {number : Int} :
      PublishesOn c second (c.topicOf number) ↔ decimalPsid two.psid = .ok number :=
    publishesOn_topicOf_iff loaded connected owns distinct secondLong twoMember twoNumeral twoId
  rw [oneTopic, twoTopic, decimalPsid_intended_iff oneNumeral, decimalPsid_intended_iff twoNumeral]
  constructor
  · intro right
    exact ⟨right.1, right.2.1⟩
  · intro right
    refine ⟨right.1, right.2, fun oneRow twoRow oneListed twoListed differ shared => ?_⟩
    obtain ⟨topic, oneSent, twoSent⟩ := shared
    have onePublished := oneTopic.mpr ((decimalPsid_intended_iff oneNumeral).mpr right.1)
    have twoPublished := twoTopic.mpr ((decimalPsid_intended_iff twoNumeral).mpr right.2)
    have same : intendedNumber (headWord first) one.psid =
        intendedNumber (headWord second) two.psid :=
      topicOf_inj.mp ((onePublished.unique oneSent).trans (twoSent.unique twoPublished))
    simp only [intendedNumber, oneListed, twoListed] at same
    exact differ same

/-- The default client after four bytes of traffic, so that its tables are loaded. -/
def primedClient : MqttRadioClient := receive shippedFiles shippedSetup.client [[0, 0, 0, 0]]

theorem primedClient_loaded : Loaded shippedFiles waveJson primedClient.toBaseRadioClient := by
  have unloaded : Unloaded shippedFiles waveJson shippedSetup.client.toBaseRadioClient :=
    Setup.client_unloaded (by decide) rfl
  rcases receive_unloaded unloaded [[0, 0, 0, 0]] with ⟨-, loaded⟩ | ⟨unprimed, -⟩
  · exact loaded
  · exact absurd (by decide) unprimed

/-- A BSM and a MAP message, over the shipped table. -/
theorem bsm_and_map_routed_iff :
    (PublishesOn primedClient [0x00, 0x14] (primedClient.topicOf (intendedNumber 20 "0020")) ∧
        PublishesOn primedClient [0x00, 0x12]
          (primedClient.topicOf (intendedNumber 18 "0082")) ∧
        ∀ oneRow twoRow, ettifosRow 20 = some oneRow → ettifosRow 18 = some twoRow →
          oneRow.2 ≠ twoRow.2 → ¬ ∃ topic, PublishesOn primedClient [0x00, 0x14] topic ∧
            PublishesOn primedClient [0x00, 0x12] topic) ↔
      RoutedRight 20 "0020" ∧ RoutedRight 18 "0082" :=
  @mapped_topic_iff shippedFiles waveJson primedClient primedClient_loaded (by decide) (by decide)
    (by decide) (by decide) [0x00, 0x14] [0x00, 0x12] (by decide) (by decide)
    ⟨"BSM", "0020", "20", "183", "6"⟩ ⟨"MAP", "0082", "18", "183", "3"⟩ (by decide) (by decide)
    (by decide) (by decide)

/-- A SPAT message goes to MAP's topic and not to 130. -/
theorem spat_published_as_map :
    Loaded shippedFiles waveJson primedClient.toBaseRadioClient ∧
      (waveJson.map (·.dsrcMsgId)).Nodup ∧ (∀ entry ∈ waveJson, IsNumeral entry.psid) ∧
      (⟨"SPAT", "0082", "19", "183", "3"⟩ : WaveConfigStruct) ∈ waveJson ∧
      PublishesOn primedClient [0x00, 0x13] "Ettifos/V2X/req/J2735/2113687" ∧
      PublishesOn primedClient [0x00, 0x12] "Ettifos/V2X/req/J2735/2113687" ∧
      ¬ PublishesOn primedClient [0x00, 0x13]
        (primedClient.topicOf (intendedNumber 19 "0082")) := by
  have spat : PublishesOn primedClient [0x00, 0x13] "Ettifos/V2X/req/J2735/2113687" := by
    intro accepted
    cases accepted <;> decide
  have map : PublishesOn primedClient [0x00, 0x12] "Ettifos/V2X/req/J2735/2113687" := by
    intro accepted
    cases accepted <;> decide
  refine ⟨primedClient_loaded, by decide, by decide, by decide, spat, map, ?_⟩
  intro right
  exact absurd (spat.unique right) (by decide)

end Rows

end V2xRosDriver.Mqtt
