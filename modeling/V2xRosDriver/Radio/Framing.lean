/-
# Radio.Framing -- which well-formed frames arrive, and what arrives that is not one

A MessageFrame is a DSRCmsgID, a length determinant and a payload.  The determinant of
`n` is one byte up to 127 and two bytes, the first marked with its top bit, from 128 on
(`det`).  The scanner does not read the form off the determinant: it takes the two-byte
form exactly where the whole frame has more than 127 bytes, and it refuses a frame of
more than 16383.  So the frames with a payload of 125 to 127 or of 16380 to 16383 bytes
are lost (`frame_delivered_iff`), and a suffix of 128 to 131 bytes, or a longer one
without the mark, is raised although it is no frame (`signals_sound_iff`).
-/
import V2xRosDriver.Radio.LookAhead

namespace V2xRosDriver.Radio

set_option autoImplicit false

open V2xRosDriver.Theory.Numerals

/-! ## Frames -/

/-- The length determinant of `n`. -/
def det (n : Nat) : List UInt8 :=
  if n < 128 then [UInt8.ofNat n] else [UInt8.ofNat (0x80 ||| n >>> 8), lowByte n]

/-- DSRCmsgID, determinant, payload. -/
def frame (id : Nat) (payload : List UInt8) : List UInt8 :=
  [highByte id, lowByte id] ++ det payload.length ++ payload

theorem det_short {n : Nat} (short : n < 128) : det n = [UInt8.ofNat n] := if_pos short

theorem det_long {n : Nat} (long : 128 ≤ n) :
    det n = [UInt8.ofNat (0x80 ||| n >>> 8), lowByte n] := if_neg (by omega)

theorem mark_toNat {n : Nat} (bounded : n ≤ 16383) :
    (UInt8.ofNat (0x80 ||| n >>> 8)).toNat = 128 + n / 256 := by
  rw [Nat.shiftRight_eq_div_pow, or_mark (by omega), UInt8.toNat_ofNat']
  omega

theorem headWord_frame {id : Nat} (small : id < 65536) (payload : List UInt8) :
    headWord (frame id payload) = id :=
  word_high_low small

theorem frame_length (id : Nat) (payload : List UInt8) :
    (frame id payload).length =
      if payload.length < 128 then payload.length + 3 else payload.length + 4 := by
  unfold frame det
  split <;> simp

/-- The size check in numbers. -/
theorem sizeConsistent_iff {hi lo high low : UInt8} {rest : List UInt8} :
    sizeConsistent (hi :: lo :: high :: low :: rest) = true ↔
      if 124 ≤ rest.length then 256 * (high.toNat % 128) + low.toNat = rest.length
      else high.toNat = rest.length + 1 := by
  by_cases long : 124 ≤ rest.length
  · rw [if_pos long, sizeConsistent, if_pos (by omega), beq_iff_eq, word_unmarked]
  · rw [if_neg long, sizeConsistent, if_neg (by omega), beq_iff_eq]

/-- The size check takes the form from the whole frame, so it refuses the frames whose
payload has 125, 126 or 127 bytes and no others. -/
theorem sizeConsistent_frame_iff {id : Nat} {payload : List UInt8} (nonempty : payload ≠ [])
    (bounded : payload.length ≤ 16383) :
    sizeConsistent (frame id payload) = true ↔ payload.length ≤ 124 ∨ 128 ≤ payload.length := by
  by_cases short : payload.length < 128
  · obtain ⟨first, rest, rfl⟩ := List.exists_cons_of_ne_nil nonempty
    simp only [List.length_cons] at short ⊢
    have low : (UInt8.ofNat (rest.length + 1)).toNat = rest.length + 1 := by
      rw [UInt8.toNat_ofNat']
      omega
    rw [frame, List.length_cons, det_short short]
    simp only [List.cons_append, List.nil_append]
    rw [sizeConsistent_iff, low]
    split <;> omega
  · have low := lowByte_toNat payload.length
    have high := mark_toNat bounded
    rw [frame, det_long (by omega)]
    simp only [List.cons_append, List.nil_append]
    rw [sizeConsistent_iff, if_pos (by omega), low, high]
    omega

/-! ## Frames that arrive -/

section Delivery

variable {files : WaveFiles} {table : List WaveConfigStruct} {c : BaseRadioClient}

/-- A datagram is raised whole exactly when it delivers at index 0. -/
theorem signals_whole_iff (loaded : Loaded files table c) {data : List UInt8} {id : Nat} :
    signals files c data = [⟨data, id⟩] ↔ Delivers table data ∧ id = headWord data := by
  rw [signals_eq_singleton_iff loaded]
  constructor
  · rintro ⟨i, delivers, -, same⟩
    obtain ⟨whole, rfl⟩ := MessageReceived.mk.inj same
    have first : data.drop i = data := whole.symm
    rw [first] at delivers ⊢
    exact ⟨delivers, rfl⟩
  · rintro ⟨delivers, rfl⟩
    exact ⟨0, delivers, fun j below => absurd below (Nat.not_lt_zero j), rfl⟩

/-- With a DSRCmsgID that no configured PSID has, only a PSID that fails to parse can keep
a candidate from being raised. -/
theorem delivers_iff_of_no_psid {suffix : List UInt8}
    (notPsid : ∀ entry ∈ table, stoi16 entry.psid ≠ .ok (headWord suffix : Int)) :
    Delivers table suffix ↔
      Candidate table suffix ∧ ∀ entry ∈ table, ∃ value, stoi16 entry.psid = .ok value := by
  have impossible : possiblePsid table suffix ≠ .ok true := by
    intro possible
    obtain ⟨psid, member, value⟩ := psidLoop_true possible
    obtain ⟨entry, inTable, rfl⟩ := List.mem_map.mp member
    exact notPsid entry inTable value
  have negative : possiblePsid table suffix = .ok false ↔
      ∀ entry ∈ table, ∃ value, stoi16 entry.psid = .ok value := by
    rw [possiblePsid, psidLoop_false_iff, List.forall_mem_map]
    constructor
    · intro parses entry member
      obtain ⟨value, parsed, -⟩ := parses entry member
      exact ⟨value, parsed⟩
    · intro parses entry member
      obtain ⟨value, parsed⟩ := parses entry member
      refine ⟨value, parsed, ?_⟩
      rintro rfl
      exact notPsid entry member parsed
  unfold Delivers
  rw [negative]
  constructor
  · rintro ⟨candidate, parses | ⟨possible, -⟩⟩
    · exact ⟨candidate, parses⟩
    · exact absurd possible impossible
  · rintro ⟨candidate, parses⟩
    exact ⟨candidate, Or.inl parses⟩

/-- A frame of a known type is a candidate exactly at the lengths the size check gets right. -/
theorem candidate_frame_iff {id : Nat} (small : id < 65536)
    (known : toString id ∈ table.map (·.dsrcMsgId)) {payload : List UInt8}
    (nonempty : payload ≠ []) (bounded : payload.length ≤ 16383) :
    Candidate table (frame id payload) ↔
      payload.length ≤ 124 ∨ 128 ≤ payload.length ∧ payload.length ≤ 16379 := by
  have size := frame_length id payload
  have consistent : sizeConsistent (frame id payload) = true ↔ _ :=
    sizeConsistent_frame_iff nonempty bounded
  constructor
  · intro candidate
    have fits := candidate.fits
    have checked := consistent.mp candidate.consistent
    unfold Oversize at fits
    rw [size] at fits
    split at fits <;> omega
  · intro lengths
    refine ⟨by rwa [Known, headWord_frame small], ?_, consistent.mpr (by omega)⟩
    unfold Oversize
    rw [size]
    split <;> omega

/-- **Exactly which frames arrive.**  A frame of a known type that is no configured PSID is
raised once, whole and with its id, if and only if its payload has at most 124 or 128 to
16379 bytes and every configured PSID parses. -/
theorem frame_delivered_iff (loaded : Loaded files table c) {id : Nat} (small : id < 65536)
    (known : toString id ∈ table.map (·.dsrcMsgId))
    (notPsid : ∀ entry ∈ table, stoi16 entry.psid ≠ .ok (id : Int)) {payload : List UInt8}
    (nonempty : 1 ≤ payload.length) (bounded : payload.length ≤ 16383) :
    signals files c (frame id payload) = [⟨frame id payload, id⟩] ↔
      (payload.length ≤ 124 ∨ 128 ≤ payload.length ∧ payload.length ≤ 16379) ∧
        ∀ entry ∈ table, ∃ value, stoi16 entry.psid = .ok value := by
  have head : headWord (frame id payload) = id := headWord_frame small payload
  have filled : payload ≠ [] := List.length_pos_iff.mp nonempty
  rw [signals_whole_iff loaded, delivers_iff_of_no_psid (by rwa [head]),
    candidate_frame_iff small known filled bounded, head]
  simp

/-- A BSM with a payload of one byte, over the shipped table. -/
theorem bsm_frame_delivered_iff :
    signals shippedFiles shippedClient (frame 20 [7]) = [⟨frame 20 [7], 20⟩] ↔
      ([(7 : UInt8)].length ≤ 124 ∨ 128 ≤ [(7 : UInt8)].length ∧ [(7 : UInt8)].length ≤ 16379) ∧
        ∀ entry ∈ waveJson, ∃ value, stoi16 entry.psid = .ok value :=
  frame_delivered_iff shipped_loaded (by decide) (by decide) (by decide) (by decide) (by decide)

/-- A BSM with a payload of 125 bytes is not raised: its determinant is one byte, but the
frame has 128 bytes and is checked as if it were two. -/
theorem bsm_frame_125_lost :
    Loaded shippedFiles waveJson shippedClient ∧
      toString 20 ∈ waveJson.map (·.dsrcMsgId) ∧
      (∀ entry ∈ waveJson, stoi16 entry.psid ≠ .ok 20) ∧
      signals shippedFiles shippedClient (frame 20 (List.replicate 125 0)) ≠
        [⟨frame 20 (List.replicate 125 0), 20⟩] := by
  refine ⟨shipped_loaded, by decide, by decide, fun raised => ?_⟩
  obtain ⟨⟨candidate, -⟩, -⟩ := (signals_whole_iff shipped_loaded).mp raised
  have lengths := (sizeConsistent_frame_iff (by simp) (by simp)).mp candidate.consistent
  simp at lengths

end Delivery

/-! ## What arrives -/

section Soundness

variable {files : WaveFiles} {table : List WaveConfigStruct} {c : BaseRadioClient}

/-- A suffix of the datagram that is a frame of a known type. -/
structure WellFramed (table : List WaveConfigStruct) (data : List UInt8)
    (signal : MessageReceived) : Prop where
  suffix : signal.message <:+ data
  fits : signal.message.length ≤ 16383
  known : toString signal.id ∈ table.map (·.dsrcMsgId)
  framed : signal.id < 65536 ∧ ∃ payload ≠ [], signal.message = frame signal.id payload

/-- At most one signal, and only for a frame. -/
def Sound (table : List WaveConfigStruct) (data : List UInt8) (raised : List MessageReceived) :
    Prop :=
  raised.length ≤ 1 ∧ ∀ signal ∈ raised, WellFramed table data signal

/-- The third byte has the mark of the two-byte form. -/
def Marked (suffix : List UInt8) : Prop := 128 ≤ (suffix.getD 2 0).toNat

/-- Short enough for the one-byte form, or a marked suffix too long for it. -/
def Canonical (suffix : List UInt8) : Prop :=
  suffix.length ≤ 127 ∨ 132 ≤ suffix.length ∧ Marked suffix

/-- A frame the size check accepts is canonical. -/
theorem canonical_of_frame {id : Nat} {payload : List UInt8} (nonempty : payload ≠ [])
    (fits : (frame id payload).length ≤ 16383)
    (consistent : sizeConsistent (frame id payload) = true) : Canonical (frame id payload) := by
  have size := frame_length id payload
  have bounded : payload.length ≤ 16383 := by split at size <;> omega
  rcases (sizeConsistent_frame_iff nonempty bounded).mp consistent with short | long
  · left
    rw [size, if_pos (by omega)]
    omega
  · right
    rw [size, if_neg (by omega)]
    refine ⟨by omega, ?_⟩
    have third : (frame id payload).getD 2 0 = UInt8.ofNat (0x80 ||| payload.length >>> 8) := by
      rw [frame, det_long long]
      rfl
    rw [Marked, third, mark_toNat bounded]
    omega

/-- A canonical suffix the size check accepts is a frame. -/
theorem frame_of_canonical {suffix : List UInt8} (fits : suffix.length ≤ 16383)
    (consistent : sizeConsistent suffix = true) (canonical : Canonical suffix) :
    headWord suffix < 65536 ∧ ∃ payload ≠ [], suffix = frame (headWord suffix) payload := by
  match suffix with
  | [] | [_] | [_, _] | [_, _, _] => simp [sizeConsistent] at consistent
  | hi :: lo :: high :: low :: rest =>
      have head : headWord (hi :: lo :: high :: low :: rest) = word hi lo := rfl
      simp only [List.length_cons] at fits
      rw [head]
      refine ⟨word_lt hi lo, ?_⟩
      rw [sizeConsistent_iff] at consistent
      rcases canonical with short | ⟨long, marked⟩
      · simp only [List.length_cons] at short
        rw [if_neg (by omega)] at consistent
        refine ⟨low :: rest, by simp, ?_⟩
        have field : UInt8.ofNat (rest.length + 1) = high := by
          rw [← consistent, UInt8.ofNat_toNat]
        rw [frame, List.length_cons, det_short (by omega), field, highByte_word, lowByte_word]
        rfl
      · simp only [List.length_cons] at long
        rw [if_pos (by omega)] at consistent
        have mark : 128 ≤ high.toNat := marked
        have highBound := high.toNat_lt
        have lowBound := low.toNat_lt
        refine ⟨rest, List.length_pos_iff.mp (by omega), ?_⟩
        have first : UInt8.ofNat (0x80 ||| rest.length >>> 8) = high := by
          apply UInt8.toNat_inj.mp
          rw [mark_toNat (by omega)]
          omega
        have second : lowByte rest.length = low := by
          apply UInt8.toNat_inj.mp
          rw [lowByte_toNat]
          omega
        rw [frame, det_long (by omega), first, second, highByte_word, lowByte_word]
        rfl

/-- **Exactly when only a frame is raised.**  What `process` raises is sound if and only if
the first suffix that delivers, when nothing ended the scan before it, is canonical. -/
theorem signals_sound_iff (loaded : Loaded files table c) (data : List UInt8) :
    Sound table data (signals files c data) ↔
      ∀ i, Delivers table (data.drop i) → (∀ j < i, ¬ Ends table (data.drop j)) →
        Canonical (data.drop i) := by
  constructor
  · rintro ⟨-, framed⟩ i delivers skips
    have raised : signals files c data = [⟨data.drop i, headWord (data.drop i)⟩] :=
      (signals_eq_singleton_iff loaded).mpr ⟨i, delivers, skips, rfl⟩
    obtain ⟨-, fits, -, -, payload, nonempty, shape⟩ :=
      framed ⟨data.drop i, headWord (data.drop i)⟩ (by rw [raised]; simp)
    have consistent := delivers.1.consistent
    simp only at shape fits
    rw [shape] at fits consistent ⊢
    exact canonical_of_frame nonempty fits consistent
  · intro canonical
    rcases signals_cases loaded data with silent | ⟨signal, raised⟩
    · rw [silent]
      exact ⟨Nat.zero_le _, by simp⟩
    · rw [raised]
      refine ⟨le_refl _, fun other member => ?_⟩
      rw [List.mem_singleton] at member
      subst member
      obtain ⟨i, delivers, skips, rfl⟩ := (signals_eq_singleton_iff loaded).mp raised
      have fits : (data.drop i).length ≤ 16383 := Nat.le_of_not_lt delivers.1.fits
      exact ⟨List.drop_suffix i data, fits, delivers.1.known,
        frame_of_canonical fits delivers.1.consistent (canonical i delivers skips)⟩

/-- A BSM with a payload of one byte, over the shipped table. -/
theorem bsm_frame_sound_iff :
    Sound waveJson (frame 20 [7]) (signals shippedFiles shippedClient (frame 20 [7])) ↔
      ∀ i, Delivers waveJson ((frame 20 [7]).drop i) →
        (∀ j < i, ¬ Ends waveJson ((frame 20 [7]).drop j)) → Canonical ((frame 20 [7]).drop i) :=
  signals_sound_iff shipped_loaded (frame 20 [7])

/-- 128 bytes that start with the BSM DSRCmsgID and then 0x80 0x7C: the scanner raises them
as a frame with a two-byte length of 124, a length that has the one-byte form 0x7C. -/
def overlong : List UInt8 := [0x00, 0x14, 0x80, 0x7C] ++ List.replicate 124 0

theorem overlong_raised :
    signals shippedFiles shippedClient overlong = [⟨overlong, 20⟩] ∧
      ¬ Sound waveJson overlong (signals shippedFiles shippedClient overlong) := by
  have raised : signals shippedFiles shippedClient overlong = [⟨overlong, 20⟩] := by
    refine (signals_whole_iff shipped_loaded).mpr ⟨⟨⟨by decide, ?_, ?_⟩, Or.inl ?_⟩, rfl⟩
    · simp [Oversize, overlong]
    · simp [overlong, sizeConsistent_iff]
    · decide
  refine ⟨raised, fun sound => ?_⟩
  obtain ⟨-, fits, -, -, payload, nonempty, shape⟩ := sound.2 ⟨overlong, 20⟩ (by rw [raised]; simp)
  have consistent : sizeConsistent overlong = true := by simp [overlong, sizeConsistent_iff]
  simp only at shape fits
  rw [shape] at fits consistent
  have canonical := canonical_of_frame nonempty fits consistent
  rw [← shape] at canonical
  simp [Canonical, overlong] at canonical

end Soundness

end V2xRosDriver.Radio
