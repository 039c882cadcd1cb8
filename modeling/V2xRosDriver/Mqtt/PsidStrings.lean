/-
# Mqtt.PsidStrings -- psid strings that `std::stoi` rejects

The schema of wave.json wants a psid to be a string and asks no more of it.  Two places
read the string later: `isPossiblePSID` compares values, for every psid up to the first
that matches, and `buildPublishTopic` reads the one psid the override map does not hide.
A string that is no numeral, or too large a one, makes `std::stoi` throw there, and nothing
between there and the receive thread or the callback of the node catches it.

`returns_normally_iff` says for which tables, datagrams and messages that happens.
-/
import V2xRosDriver.Mqtt.Routing
import V2xRosDriver.Radio.LookAhead

namespace V2xRosDriver.Mqtt

set_option autoImplicit false

open V2xRosDriver.Theory.Numerals
open V2xRosDriver.Theory.SuffixScan
open V2xRosDriver.Radio

/-- `std::stoi` reads the string. -/
def Readable (psid : String) : Prop := ∃ value, stoi16 psid = .ok value

theorem readable_of_numeral {psid : String} (numeral : IsNumeral psid) : Readable psid :=
  ⟨_, stoi16_of_numeral numeral⟩

/-- Every psid in front of the first one with the value `id` can be read. -/
def Searchable (id : Nat) (psids : List String) : Prop :=
  ∀ front psid back, psids = front ++ psid :: back →
    (∀ other ∈ front, stoi16 other ≠ .ok (id : Int)) → Readable psid

/-! ## The search for a psid value -/

theorem searchable_nil (id : Nat) : Searchable id [] := by
  intro front psid back shape
  simp at shape

theorem searchable_cons {id : Nat} {psid : String} {rest : List String} :
    Searchable id (psid :: rest) ↔
      Readable psid ∧ (stoi16 psid = .ok (id : Int) ∨ Searchable id rest) := by
  constructor
  · intro searchable
    refine ⟨searchable [] psid rest rfl (by simp), ?_⟩
    by_cases here : stoi16 psid = .ok (id : Int)
    · exact Or.inl here
    · right
      rintro front other back rfl absent
      exact searchable (psid :: front) other back rfl (by simpa [here] using absent)
  · rintro ⟨readable, later⟩ front other back shape absent
    cases front with
    | nil =>
        obtain ⟨rfl, -⟩ := List.cons.inj shape
        exact readable
    | cons first front =>
        obtain ⟨rfl, rfl⟩ := List.cons.inj shape
        rcases later with here | searchable
        · exact absurd here (absent psid (by simp))
        · exact searchable front other back rfl fun psid member => absent psid (by simp [member])

/-- On a searchable list the loop of `isPossiblePSID` is a membership test. -/
theorem psidLoop_of_searchable {id : Nat} {psids : List String} (searchable : Searchable id psids) :
    psidLoop (toString id) psids = .ok (decide (∃ psid ∈ psids, stoi16 psid = .ok (id : Int))) := by
  induction psids with
  | nil => rfl
  | cons psid rest ih =>
      obtain ⟨⟨value, parsed⟩, later⟩ := searchable_cons.mp searchable
      rw [psidLoop_cons parsed]
      by_cases here : value = id
      · simp [here, parsed]
      · have onward : Searchable id rest := by
          rcases later with found | onward
          · rw [parsed] at found
            exact absurd (Except.ok.inj found) here
          · exact onward
        rw [if_neg here, ih onward]
        simp [here, parsed]

/-- On any other list it throws. -/
theorem psidLoop_of_not_searchable {id : Nat} {psids : List String}
    (unreadable : ¬ Searchable id psids) :
    ∃ error, psidLoop (toString id) psids = .error (.stoi error) := by
  induction psids with
  | nil => exact absurd (searchable_nil id) unreadable
  | cons psid rest ih =>
      cases parsed : stoi16 psid with
      | error error => exact ⟨error, by simp only [psidLoop, parsed]⟩
      | ok value =>
          rw [searchable_cons, not_and, not_or] at unreadable
          obtain ⟨other, later⟩ := unreadable ⟨value, parsed⟩
          have differs : value ≠ id := by
            rintro rfl
            exact other parsed
          rw [psidLoop_cons parsed, if_neg differs]
          exact ih later

/-! ## Inbound -/

section Inbound

variable (table : List WaveConfigStruct)

/-- The psids the scanner compares the suffix's DSRCmsgID with can be read as far as it
compares. -/
def PsidsReadable (suffix : List UInt8) : Prop :=
  Searchable (headWord suffix) (table.map (·.psid))

/-- The scan goes on behind this suffix: its DSRCmsgID is not in the table, its length field
does not agree, or it is taken for a BSM PSID header. -/
def PassedOver (suffix : List UInt8) : Prop :=
  Known table suffix → ¬ Oversize suffix ∧
    (sizeConsistent suffix = true →
      PsidsReadable table suffix ∧
        (∃ psid ∈ table.map (·.psid), stoi16 psid = .ok (headWord suffix : Int)) ∧
        BsmPattern suffix)

variable {table}

theorem possiblePsid_true_iff {suffix : List UInt8} :
    possiblePsid table suffix = .ok true ↔
      PsidsReadable table suffix ∧
        ∃ psid ∈ table.map (·.psid), stoi16 psid = .ok (headWord suffix : Int) := by
  unfold possiblePsid PsidsReadable
  by_cases searchable : Searchable (headWord suffix) (table.map (·.psid))
  · rw [psidLoop_of_searchable searchable, Except.ok.injEq, decide_eq_true_eq]
    exact (and_iff_right searchable).symm
  · obtain ⟨error, thrown⟩ := psidLoop_of_not_searchable searchable
    rw [thrown]
    simp [searchable]

theorem not_ends_iff {suffix : List UInt8} : ¬ Ends table suffix ↔ PassedOver table suffix := by
  unfold Ends Skipped PassedOver
  rw [possiblePsid_true_iff, and_assoc, not_and, not_or, not_and, not_not]

/-- The verdict on a suffix is an exception of `std::stoi`. -/
theorem judge_stoi_iff {suffix : List UInt8} :
    (∃ error, judge table suffix = .fail (.stoi error)) ↔
      Candidate table suffix ∧ ¬ PsidsReadable table suffix := by
  constructor
  · intro failed
    obtain ⟨error, verdict⟩ := failed
    by_cases candidate : Candidate table suffix
    · refine ⟨candidate, fun searchable => ?_⟩
      rcases judge_candidate_cases candidate with ⟨-, other⟩ | ⟨-, other⟩ | ⟨-, -, -, other⟩ |
        ⟨-, _, thrown, -⟩
      · rw [other] at verdict; cases verdict
      · rw [other] at verdict; cases verdict
      · rw [other] at verdict; cases verdict
      · have answered := psidLoop_of_searchable searchable
        unfold possiblePsid at thrown
        rw [answered] at thrown
        cases thrown
    · rcases judge_of_not_candidate candidate with other | other <;> rw [other] at verdict <;>
        cases verdict
  · rintro ⟨candidate, unreadable⟩
    obtain ⟨error, thrown⟩ := psidLoop_of_not_searchable unreadable
    have asked : possiblePsid table suffix = .error (.stoi error) := thrown
    refine ⟨error, ?_⟩
    rw [judge_of_candidate candidate, skippedAsPsid, asked]
    rfl

variable (table) in
/-- Wherever the scan gets to, the psids it compares with can be read. -/
def InboundReadable (data : List UInt8) : Prop :=
  ∀ i, Candidate table (data.drop i) → (∀ j < i, PassedOver table (data.drop j)) →
    PsidsReadable table (data.drop i)

variable {files : WaveFiles} {c : BaseRadioClient}

theorem loaded_ending_ok_iff (loaded : Loaded files table c) {data : List UInt8}
    (inRange : ending files c data ≠ .error .badAccess) :
    ending files c data = .ok () ↔ InboundReadable table data := by
  have thrown : ending files c data ≠ .ok () ↔
      ∃ error, inbound table data = .failed (.stoi error) := by
    rw [ending_eq loaded] at inRange ⊢
    cases ended : inbound table data with
    | failed fault =>
        cases fault with
        | badAccess => exact absurd (by rw [ended]) inRange
        | stoi error => simp
    | _ => simp
  have stopped : (∃ error, inbound table data = .failed (.stoi error)) ↔
      ∃ i, (Candidate table (data.drop i) ∧ ¬ PsidsReadable table (data.drop i)) ∧
        ∀ j < i, PassedOver table (data.drop j) := by
    simp only [inbound, scan_failed_iff, skipsBelow_iff, not_ends_iff]
    constructor
    · rintro ⟨error, i, -, passed, verdict⟩
      exact ⟨i, judge_stoi_iff.mp ⟨error, verdict⟩, passed⟩
    · rintro ⟨i, unreadable, passed⟩
      obtain ⟨error, verdict⟩ := judge_stoi_iff.mpr unreadable
      exact ⟨error, i, judged_of_candidate unreadable.1, passed, verdict⟩
  rw [← not_iff_not, ← ne_eq, thrown, stopped]
  unfold InboundReadable
  push Not
  constructor
  · rintro ⟨i, ⟨candidate, unreadable⟩, passed⟩
    exact ⟨i, candidate, passed, unreadable⟩
  · rintro ⟨i, candidate, passed, unreadable⟩
    exact ⟨i, ⟨candidate, unreadable⟩, passed⟩

end Inbound

/-! ## Clients with and without their tables -/

section Provided

variable {files : WaveFiles} {table : List WaveConfigStruct}

/-- The client has loaded the file of `table`, or will as soon as it needs it. -/
def Provided (files : WaveFiles) (table : List WaveConfigStruct) (c : BaseRadioClient) : Prop :=
  Loaded files table c ∨ Unloaded files table c

theorem ending_ok_iff {c : BaseRadioClient} (provided : Provided files table c)
    {data : List UInt8} (inRange : ending files c data ≠ .error .badAccess) :
    ending files c data = .ok () ↔ InboundReadable table data := by
  rcases provided with loaded | unloaded
  · exact loaded_ending_ok_iff loaded inRange
  · by_cases long : 4 ≤ data.length
    · have same : ending files c data = ending files (loadedFrom files c) data := by
        rw [ending, ending, exec_process_unloaded unloaded long]
      rw [same] at inRange ⊢
      exact loaded_ending_ok_iff unloaded.loaded inRange
    · -- nothing is looked at, and nothing is long enough to be a candidate
      have quiet : ending files c data = .ok () := by
        rw [ending, exec_process_short (by omega)]
      refine iff_of_true quiet fun i candidate => ?_
      have size := candidate_length candidate
      rw [List.length_drop] at size
      omega

/-! ## Outbound -/

/-- The number of the psid comes out of the override map, or `std::stoi` reads it. -/
def TopicReadable (psid : String) : Prop := (ettifosOverride psid).isSome = true ∨ Readable psid

theorem buildPublishTopic_returns_iff {c : MqttRadioClient} {psid : String} :
    (∃ topic, c.buildPublishTopic psid = .ok topic) ↔ TopicReadable psid := by
  unfold MqttRadioClient.buildPublishTopic decimalPsid TopicReadable Readable
  cases ettifosOverride psid with
  | some number => simp
  | none => cases stoi16 psid <;> simp

/-- A raw DSRCmsgID can always be read, if not as the number it is. -/
theorem topicReadable_raw (hi lo : UInt8) : TopicReadable (toString (word hi lo)) := by
  have small : word hi lo < 10 ^ 7 := lt_trans (word_lt hi lo) (by decide)
  exact Or.inr (readable_of_numeral (numeral_of_nat small))

theorem psidForDsrcMsgId_returns {c : BaseRadioClient} (provided : Provided files table c)
    (dsrcMsgId : Nat) : ∃ psid, c.psidForDsrcMsgId (toString dsrcMsgId) = .ok psid := by
  rcases provided with loaded | unloaded
  · exact ⟨_, psidForDsrcMsgId_of_loaded loaded dsrcMsgId⟩
  · refine ⟨"", ?_⟩
    unfold BaseRadioClient.psidForDsrcMsgId
    rw [unloaded.noIds]
    rfl

/-- A message that reaches the topic, on a client with tables, has a psid to build it from. -/
def OutboundReadable (table : List WaveConfigStruct) (c : MqttRadioClient)
    (message : List UInt8) : Prop :=
  c.session.connected = true → c.session.mosq.isSome = true → 2 ≤ message.length →
    c.waveCfgDsrcMsgIds ≠ [] → TopicReadable (route table (headWord message))

/-- The client hands the message on or refuses it, whatever libmosquitto answers. -/
def SendReturns (c : MqttRadioClient) (message : List UInt8) : Prop :=
  ∀ accepted, ∃ sent, c.sendV2xMessage (some message) accepted = .ok sent

theorem sendReturns_iff {c : MqttRadioClient} (provided : Provided files table c.toBaseRadioClient)
    (message : List UInt8) : SendReturns c message ↔ OutboundReadable table c message := by
  unfold SendReturns OutboundReadable MqttRadioClient.sendV2xMessage
  by_cases offline : ¬ c.session.connected ∨ c.session.mosq.isNone
  · simp only [if_pos offline]
    refine iff_of_true (fun accepted => ⟨_, rfl⟩) fun connected owns => ?_
    rcases offline with down | cleared
    · exact absurd connected down
    · rw [← Option.not_isSome, owns] at cleared
      cases cleared
  · simp only [if_neg offline]
    rw [not_or, not_not] at offline
    have owns : c.session.mosq.isSome = true := by
      simpa [Option.isSome_iff_ne_none] using offline.2
    match message with
    | [] | [_] => simp
    | hi :: lo :: content =>
        have sends (psid : String) (routed : c.psidToSend (word hi lo) = .ok psid) :
            (∀ accepted, ∃ sent, (do
                let psid ← c.psidToSend (word hi lo)
                let topic ← c.buildPublishTopic psid
                return ((some ⟨topic, hi :: lo :: content, c.qos, false⟩ : Option Publication),
                  accepted) : Except Fault (Option Publication × Bool)) = .ok sent) ↔
              TopicReadable psid := by
          rw [← buildPublishTopic_returns_iff (c := c), routed]
          cases built : c.buildPublishTopic psid with
          | ok topic => simp [built, bind, Except.bind, pure, Except.pure]
          | error fault => simp [built, bind, Except.bind]
        have reaches : c.session.connected = true ∧ c.session.mosq.isSome = true ∧
            2 ≤ (hi :: lo :: content).length := ⟨offline.1, owns, by simp⟩
        simp only [reaches, forall_const]
        by_cases bare : c.waveCfgDsrcMsgIds = []
        · rw [sends _ (psidToSend_of_unloaded bare _)]
          exact iff_of_true (topicReadable_raw hi lo) fun filled => absurd bare filled
        · rcases provided with loaded | unloaded
          · rw [sends _ (psidToSend_of_loaded loaded _)]
            exact ⟨fun readable _ => readable, fun readable => readable bare⟩
          · exact absurd unloaded.noIds bare

/-! ## Both ways -/

/-- **Exactly when no exception of `std::stoi` escapes.**  For a table of arbitrary strings,
a datagram that is read in range and an outbound message, every call returns normally if and
only if, wherever the scan of the datagram gets to, the psids in front of the first match can
be read, and the psid the message is routed by is in the override map or can be read. -/
theorem returns_normally_iff {c : MqttRadioClient}
    (provided : Provided files table c.toBaseRadioClient) {data : List UInt8}
    (inRange : ending files c.toBaseRadioClient data ≠ .error .badAccess)
    (message : List UInt8) :
    (ending files c.toBaseRadioClient data = .ok () ∧
        (∀ dsrcMsgId : Nat, ∃ psid, c.psidForDsrcMsgId (toString dsrcMsgId) = .ok psid) ∧
        SendReturns c message) ↔
      InboundReadable table data ∧ OutboundReadable table c message := by
  rw [ending_ok_iff provided inRange, sendReturns_iff provided]
  constructor
  · rintro ⟨readable, -, sends⟩
    exact ⟨readable, sends⟩
  · rintro ⟨readable, sends⟩
    exact ⟨readable, psidForDsrcMsgId_returns provided, sends⟩

/-- The node's MQTT client with the installed wave file, a PSM frame in and a BSM out. -/
theorem shipped_returns_normally_iff :
    (ending shippedFiles shippedSetup.client.toBaseRadioClient psmFrame = .ok () ∧
        (∀ dsrcMsgId : Nat, ∃ psid,
          shippedSetup.client.psidForDsrcMsgId (toString dsrcMsgId) = .ok psid) ∧
        SendReturns shippedSetup.client [0x00, 0x14]) ↔
      InboundReadable waveJson psmFrame ∧
        OutboundReadable waveJson shippedSetup.client [0x00, 0x14] :=
  @returns_normally_iff shippedFiles waveJson shippedSetup.client
    (Or.inr (Setup.client_unloaded (by decide) rfl)) psmFrame (by decide) [0x00, 0x14]

/-- A file the schema accepts: one object, its five members strings. -/
def wordyFiles : WaveFiles := fun _ => .accepted [⟨"BSM", "TBD", "20", "183", "6"⟩]

/-- An MQTT client of the node with that file, connected, after four bytes of traffic. -/
def wordyClient : MqttRadioClient :=
  receive wordyFiles { shippedSetup with waveFilePath := "wave.json" }.client [[0, 0, 0, 0]]

/-- A psid that is no number: the shortest BSM frame throws on its way in, and a BSM on its
way out. -/
theorem wordy_psid_throws :
    Loaded wordyFiles [⟨"BSM", "TBD", "20", "183", "6"⟩] wordyClient.toBaseRadioClient ∧
      ending wordyFiles wordyClient.toBaseRadioClient [0x00, 0x14, 0x01, 0x00] =
        .error (.stoi .invalidArgument) ∧
      ∀ accepted, wordyClient.sendV2xMessage (some [0x00, 0x14]) accepted =
        .error (.stoi .invalidArgument) := by
  refine ⟨⟨by decide, by decide, fun empty => by cases empty⟩, by decide, ?_⟩
  intro accepted
  cases accepted <;> decide

end Provided

end V2xRosDriver.Mqtt
