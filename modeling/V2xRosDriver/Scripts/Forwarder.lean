/-
# Scripts.Forwarder -- the frame the Python forwarder extracts

`v2x_decoder_forwarder.py` listens to the same datagrams as the driver.  Where the driver
checks DSRCmsgID, length field and PSID at every index, `grab_payload` takes everything
from the first byte pair 0x0014 on, wherever it stands, and only without one from the first
0x0029.  The two agree exactly when no such pair comes first (`grabPayload_eq_iff`).
-/
import V2xRosDriver.Radio.LookAhead
import Mathlib.Data.List.Infix

namespace V2xRosDriver.Scripts

set_option autoImplicit false

open V2xRosDriver.Theory.Numerals
open V2xRosDriver.Radio

/-- `data.find (pattern)`: the first index at which the pattern starts. -/
def find (pattern data : List UInt8) : Option Nat :=
  data.tails.findIdx? (pattern.isPrefixOf ·)

/-- BSM and SDSM DSRCmsgIDs as bytes, respectively. -/
def msgIds : List (List UInt8) := [[0x00, 0x14], [0x00, 0x29]]

/-- The payload of the first message id found, from there to the end of the datagram. -/
def grabPayload (data : List UInt8) : Option (List UInt8) :=
  msgIds.findSome? fun id => (find id data).map (data.drop ·)

/-- The pattern starts at index `i`. -/
def OccursAt (pattern data : List UInt8) (i : Nat) : Prop := pattern <+: data.drop i

/-! ## Finding -/

theorem find_eq_some_iff {pattern data : List UInt8} {i : Nat} :
    find pattern data = some i ↔
      i ≤ data.length ∧ OccursAt pattern data i ∧ ∀ j < i, ¬ OccursAt pattern data j := by
  unfold find OccursAt
  rw [List.findIdx?_eq_some_iff_getElem]
  simp only [List.length_tails, List.getElem_tails, List.isPrefixOf_iff_prefix, Nat.lt_succ_iff]
  constructor
  · rintro ⟨inside, occurs, absent⟩
    exact ⟨inside, occurs, fun j below => by simpa using absent j below⟩
  · rintro ⟨inside, occurs, absent⟩
    exact ⟨inside, occurs, fun j below => by simpa using absent j below⟩

/-- A nonempty pattern starts inside the data. -/
theorem OccursAt.lt {x : UInt8} {xs data : List UInt8} {i : Nat}
    (occurs : OccursAt (x :: xs) data i) : i < data.length := by
  have room := occurs.length_le
  rw [List.length_drop, List.length_cons] at room
  omega

theorem find_eq_none_iff {x : UInt8} {xs data : List UInt8} :
    find (x :: xs) data = none ↔ ∀ i, ¬ OccursAt (x :: xs) data i := by
  constructor
  · intro missing i occurs
    classical
    obtain ⟨j, first, least⟩ := Nat.findX (p := OccursAt (x :: xs) data) ⟨i, occurs⟩
    have found := find_eq_some_iff.mpr ⟨first.lt.le, first, least⟩
    rw [missing] at found
    cases found
  · intro absent
    cases found : find (x :: xs) data with
    | none => rfl
    | some i => exact absurd (find_eq_some_iff.mp found).2.1 (absent i)

/-- A suffix that starts with the pattern is what lies behind the first match exactly when the
pattern starts nowhere before it. -/
theorem find_map_drop_iff {pattern data : List UInt8} {i : Nat} (inside : i ≤ data.length)
    (occurs : OccursAt pattern data i) :
    (find pattern data).map (data.drop ·) = some (data.drop i) ↔
      ∀ j < i, ¬ OccursAt pattern data j := by
  constructor
  · intro same
    obtain ⟨k, found, dropped⟩ := Option.map_eq_some_iff.mp same
    obtain ⟨within, -, absent⟩ := find_eq_some_iff.mp found
    have lengths := congrArg List.length dropped
    rw [List.length_drop, List.length_drop] at lengths
    have here : k = i := by omega
    exact here ▸ absent
  · intro absent
    rw [find_eq_some_iff.mpr ⟨inside, occurs, absent⟩]
    rfl

/-! ## Against the driver -/

/-- A suffix starts with the two bytes of its DSRCmsgID. -/
theorem prefix_of_headWord {suffix : List UInt8} {hi lo : UInt8} (long : 2 ≤ suffix.length)
    (bytes : word hi lo = headWord suffix) : [hi, lo] <+: suffix := by
  match suffix, long, bytes with
  | x :: y :: rest, _, bytes =>
      have same : word hi lo = word x y := bytes
      have high := congrArg highByte same
      have low := congrArg lowByte same
      simp only [highByte_word, lowByte_word] at high low
      simp [high, low]

section Agreement

variable {files : WaveFiles} {table : List WaveConfigStruct} {c : BaseRadioClient}

/-- What the driver raises is a suffix of the datagram that starts with the two bytes of its
DSRCmsgID. -/
theorem raised_suffix (loaded : Loaded files table c) {data message : List UInt8} {id : Nat}
    (raised : signals files c data = [⟨message, id⟩]) {hi lo : UInt8} (bytes : word hi lo = id) :
    ∃ i ≤ data.length, message = data.drop i ∧ OccursAt [hi, lo] data i := by
  obtain ⟨i, delivers, -, same⟩ := (signals_eq_singleton_iff loaded).mp raised
  obtain ⟨rfl, head⟩ := MessageReceived.mk.inj same
  have size := candidate_length delivers.1
  refine ⟨i, ?_, rfl, prefix_of_headWord (by omega) (bytes.trans head)⟩
  rw [List.length_drop] at size
  omega

/-- **Exactly when the forwarder and the driver extract the same frame.**  When the driver
raises a BSM, the forwarder extracts the same bytes if and only if 0x0014 starts nowhere
before them.  When it raises an SDSM, if and only if 0x0014 starts nowhere in the whole
datagram, and 0x0029 nowhere before the frame. -/
theorem grabPayload_eq_iff (loaded : Loaded files table c) {data message : List UInt8} {id : Nat}
    (raised : signals files c data = [⟨message, id⟩]) (kind : id = 20 ∨ id = 41) :
    grabPayload data = some message ↔
      (id = 20 → ∀ j, j + message.length < data.length → ¬ OccursAt [0x00, 0x14] data j) ∧
        (id = 41 → (∀ j, ¬ OccursAt [0x00, 0x14] data j) ∧
          ∀ j, j + message.length < data.length → ¬ OccursAt [0x00, 0x29] data j) := by
  have before {i j : Nat} (inside : i ≤ data.length) :
      j + (data.drop i).length < data.length ↔ j < i := by
    rw [List.length_drop]
    omega
  rcases kind with rfl | rfl
  · obtain ⟨i, inside, rfl, occurs⟩ :=
      raised_suffix loaded raised (show word 0x00 0x14 = 20 by decide)
    simp only [before inside, forall_const, Nat.reduceEqDiff, false_implies, and_true]
    rw [← find_map_drop_iff inside occurs, grabPayload]
    cases found : find [0x00, 0x14] data with
    | some k => simp [msgIds, found]
    | none => exact absurd occurs (find_eq_none_iff.mp found i)
  · obtain ⟨i, inside, rfl, occurs⟩ :=
      raised_suffix loaded raised (show word 0x00 0x29 = 41 by decide)
    simp only [before inside, forall_const, Nat.reduceEqDiff, false_implies, true_and]
    cases found : find [0x00, 0x14] data with
    | some k =>
        -- the bytes extracted start with 0x0014, the frame with 0x0029
        obtain ⟨-, bsm, -⟩ := find_eq_some_iff.mp found
        refine iff_of_false ?_ fun absent => absent.1 k bsm
        intro extracted
        have same : data.drop k = data.drop i := by
          simpa [grabPayload, msgIds, found] using extracted
        unfold OccursAt at occurs bsm
        obtain ⟨rest, first⟩ := occurs
        obtain ⟨other, second⟩ := bsm
        rw [← same, ← second] at first
        simp at first
    | none =>
        have absent := find_eq_none_iff.mp found
        rw [← find_map_drop_iff inside occurs, grabPayload]
        simp only [msgIds, List.findSome?_cons, found, Option.map_none]
        cases find [0x00, 0x29] data <;> simp [absent]

/-- The shortest SDSM frame behind a header of three bytes, over the shipped table. -/
theorem sdsm_extracted_iff :
    grabPayload [0x03, 0x80, 0x81, 0x00, 0x29, 0x01, 0x00] = some [0x00, 0x29, 0x01, 0x00] ↔
      ((41 : Nat) = 20 → ∀ j, j + 4 < 7 →
        ¬ OccursAt [0x00, 0x14] [0x03, 0x80, 0x81, 0x00, 0x29, 0x01, 0x00] j) ∧
      ((41 : Nat) = 41 →
        (∀ j, ¬ OccursAt [0x00, 0x14] [0x03, 0x80, 0x81, 0x00, 0x29, 0x01, 0x00] j) ∧
        ∀ j, j + 4 < 7 →
          ¬ OccursAt [0x00, 0x29] [0x03, 0x80, 0x81, 0x00, 0x29, 0x01, 0x00] j) :=
  grabPayload_eq_iff shipped_loaded (by decide) (Or.inr rfl)

/-- An SDSM whose payload holds the pair 0x0014: the driver raises the frame, the forwarder
extracts its last three bytes as a BSM. -/
theorem sdsm_payload_extracted :
    Loaded shippedFiles waveJson shippedClient ∧
      signals shippedFiles shippedClient [0x00, 0x29, 0x03, 0x00, 0x14, 0x00] =
        [⟨[0x00, 0x29, 0x03, 0x00, 0x14, 0x00], 41⟩] ∧
      grabPayload [0x00, 0x29, 0x03, 0x00, 0x14, 0x00] = some [0x00, 0x14, 0x00] :=
  ⟨shipped_loaded, by decide, by decide⟩

end Agreement

end V2xRosDriver.Scripts
