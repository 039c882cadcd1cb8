/-
# Radio.PsidHeuristic -- the BSM-PSID heuristic over the shipped table

In the shipped wave.json exactly one number is both a DSRCmsgID and the value of a PSID:
32, a PSM on the one hand and, as 0x0020, the BSM PSID of a WSMP T-header on the other.
So the heuristic is only ever asked at a suffix that starts with 0x0020, and it answers
by looking for 0x0380 and then 0x0014.

* `enveloped_bsm_delivered`: a BSM behind such a header arrives, whatever its payload;
  the header always shows the pair, and no other byte pair of it is a DSRCmsgID.
* `shipped_raised_iff`: a PSM whose payload shows the pair is taken for a header too.
  Nothing backs that with a frame further on, and then the PSM is lost.
-/
import V2xRosDriver.Radio.Transparency

namespace V2xRosDriver.Radio

set_option autoImplicit false

open V2xRosDriver.Theory.Numerals
open V2xRosDriver.Theory.SuffixScan

/-! ## The shipped table -/

/-- The DSRCmsgIDs of wave.json. -/
def shippedIds : List Nat := [20, 18, 19, 31, 32, 41, 240, 241, 243, 242, 244, 245, 246, 247]

/-- The values of the psid strings of wave.json. -/
def shippedPsids : List Int :=
  [32, 130, 130, 131, 39, 32784, 49134, 49134, 49134, 49134, 32771, 32771, 32773, 32773]

theorem shipped_known_iff {suffix : List UInt8} :
    Known waveJson suffix ↔ headWord suffix ∈ shippedIds := by
  have printed : waveJson.map (·.dsrcMsgId) = shippedIds.map toString := by decide
  rw [Known, printed, List.mem_map]
  constructor
  · intro found
    obtain ⟨id, member, same⟩ := found
    exact toString_nat_inj.mp same ▸ member
  · intro member
    exact ⟨headWord suffix, member, rfl⟩

/-- Where every psid parses, the loop looks the number up among the values. -/
theorem psidLoop_of_values {psids : List String} {values : List Int}
    (parsed : psids.map stoi16 = values.map .ok) (id : Nat) :
    psidLoop (toString id) psids = .ok (decide ((id : Int) ∈ values)) := by
  induction psids generalizing values with
  | nil =>
      cases values with
      | nil => rfl
      | cons value values => cases parsed
  | cons psid psids ih =>
      cases values with
      | nil => cases parsed
      | cons value values =>
          simp only [List.map_cons, List.cons.injEq] at parsed
          rw [psidLoop_cons parsed.1, ih parsed.2]
          by_cases same : value = id
          · simp [same]
          · have other : (id : Int) ≠ value := fun equal => same equal.symm
            simp [same, other]

theorem shipped_possiblePsid (suffix : List UInt8) :
    possiblePsid waveJson suffix = .ok (decide ((headWord suffix : Int) ∈ shippedPsids)) := by
  have parsed : (waveJson.map (·.psid)).map stoi16 = shippedPsids.map .ok := by decide
  exact psidLoop_of_values parsed (headWord suffix)

/-- Of the known DSRCmsgIDs only the PSM's is a PSID value. -/
theorem shipped_skipped_iff {suffix : List UInt8} (known : Known waveJson suffix) :
    Skipped waveJson suffix ↔ headWord suffix = 32 ∧ BsmPattern suffix := by
  have collision : (headWord suffix : Int) ∈ shippedPsids ↔ headWord suffix = 32 := by
    have member := shipped_known_iff.mp known
    simp only [shippedIds, List.mem_cons, List.not_mem_nil, or_false] at member
    simp only [shippedPsids, List.mem_cons, List.not_mem_nil, or_false]
    omega
  rw [Skipped, shipped_possiblePsid, Except.ok.injEq, decide_eq_true_eq, collision]

/-- With every psid parsing, a scan that reads in range delivers what it accepts. -/
theorem shipped_delivers {suffix : List UInt8} (accepted : Accepted waveJson suffix)
    (inRange : judge waveJson suffix ≠ .fail .badAccess) : Delivers waveJson suffix := by
  obtain ⟨candidate, kept⟩ := accepted
  rcases judge_candidate_cases candidate with ⟨skipped, -⟩ | ⟨-, verdict⟩ | ⟨-, -, -, verdict⟩ |
    ⟨-, error, unparsed, -⟩
  · exact absurd skipped kept
  · exact (judge_deliver_iff.mp verdict).1
  · exact absurd verdict inRange
  · rw [shipped_possiblePsid] at unparsed
    cases unparsed

section Loss

variable {files : WaveFiles} {c : BaseRadioClient}

/-- A suffix of at least four bytes with a known DSRCmsgID and a length field that agrees. -/
def FramedAt (data : List UInt8) (i : Nat) : Prop :=
  i + 4 ≤ data.length ∧ Known waveJson (data.drop i) ∧ sizeConsistent (data.drop i) = true

theorem framedAt_iff {data : List UInt8} (short : data.length ≤ 16383) {i : Nat} :
    FramedAt data i ↔ Candidate waveJson (data.drop i) := by
  constructor
  · intro framed
    obtain ⟨-, known, consistent⟩ := framed
    refine ⟨known, ?_, consistent⟩
    unfold Oversize
    rw [List.length_drop]
    omega
  · intro candidate
    have size := candidate_length candidate
    rw [List.length_drop] at size
    exact ⟨by omega, candidate.known, candidate.consistent⟩

/-- Some index ends the scan first. -/
theorem exists_first_end {table : List WaveConfigStruct} {data : List UInt8} {i : Nat}
    (ends : Ends table (data.drop i)) :
    ∃ j, Ends table (data.drop j) ∧ ∀ k < j, ¬ Ends table (data.drop k) := by
  classical
  obtain ⟨j, found, least⟩ := Nat.findX (p := fun j => Ends table (data.drop j)) ⟨i, ends⟩
  exact ⟨j, found, least⟩

/-- **Exactly when the heuristic loses nothing.**  A datagram of at most 16383 bytes that is
read in range raises a signal if and only if one of its size-consistent indexes is no PSM,
or is a PSM that shows no 0x0380 among its first six words with 0x0014 close behind it. -/
theorem shipped_raised_iff (loaded : Loaded files waveJson c) {data : List UInt8}
    (short : data.length ≤ 16383) (inRange : ending files c data ≠ .error .badAccess) :
    (∃ signal, signals files c data = [signal]) ↔
      ∃ i, FramedAt data i ∧ ¬ (headWord (data.drop i) = 32 ∧ BsmPattern (data.drop i)) := by
  constructor
  · intro raised
    obtain ⟨signal, raised⟩ := raised
    obtain ⟨i, delivers, -, -⟩ := (signals_eq_singleton_iff loaded).mp raised
    have kept := delivers.accepted.2
    rw [shipped_skipped_iff delivers.1.known] at kept
    exact ⟨i, (framedAt_iff short).mpr delivers.1, kept⟩
  · intro kept
    obtain ⟨i, framed, kept⟩ := kept
    have candidate := (framedAt_iff short).mp framed
    rw [← shipped_skipped_iff candidate.known] at kept
    obtain ⟨j, ends, skips⟩ := exists_first_end (ends_iff.mpr (Or.inl ⟨candidate, kept⟩))
    have accepted : Accepted waveJson (data.drop j) := by
      rcases ends_iff.mp ends with accepted | ⟨-, many⟩
      · exact accepted
      · unfold Oversize at many
        rw [List.length_drop] at many
        omega
    have here : judge waveJson (data.drop j) ≠ .fail .badAccess := by
      intro verdict
      obtain ⟨psid, uncovered⟩ := judge_badAccess_iff.mp verdict
      exact inRange ((ending_badAccess_iff loaded).mpr ⟨j, psid, skips, uncovered⟩)
    exact ⟨_, (signals_eq_singleton_iff loaded).mpr
      ⟨j, shipped_delivers accepted here, skips, rfl⟩⟩

/-- A PSM frame that shows no BSM pattern, over the shipped table. -/
theorem psmFrame_raised_iff :
    (∃ signal, signals shippedFiles shippedClient psmFrame = [signal]) ↔
      ∃ i, FramedAt psmFrame i ∧
        ¬ (headWord (psmFrame.drop i) = 32 ∧ BsmPattern (psmFrame.drop i)) :=
  shipped_raised_iff shipped_loaded (by decide) (by decide)

/-- A PSM frame with a payload of six bytes that shows 0x0380 and 0x0014.  The word 0x0014
starts no size-consistent suffix. -/
def bsmLikePsm : List UInt8 := [0x00, 0x20, 0x06, 0x03, 0x80, 0x00, 0x14, 0x00, 0x00]

theorem bsmLikePsm_lost :
    Loaded shippedFiles waveJson shippedClient ∧ bsmLikePsm.length ≤ 16383 ∧
      ending shippedFiles shippedClient bsmLikePsm ≠ .error .badAccess ∧
      FramedAt bsmLikePsm 0 ∧ signals shippedFiles shippedClient bsmLikePsm = [] :=
  ⟨shipped_loaded, by decide, by decide, ⟨by decide, by decide, by decide⟩, by decide⟩

end Loss

/-! ## A BSM behind a WSMP T-header -/

/-- The element 0x0380 that carries an inner frame. -/
def bsmElement (inner : List UInt8) : List UInt8 := [0x03, 0x80] ++ det inner.length ++ inner

/-- The T-header with the BSM PSID, and the element behind it. -/
def envelope (inner : List UInt8) : List UInt8 :=
  [0x00, 0x20] ++ det (bsmElement inner).length ++ bsmElement inner

/-- A determinant is one or two bytes, and the first is not 0. -/
theorem det_shape {n : Nat} (positive : 0 < n) (bounded : n ≤ 16383) :
    ∃ first, first.toNat ≠ 0 ∧ (det n = [first] ∨ ∃ second, det n = [first, second]) := by
  by_cases short : n < 128
  · refine ⟨UInt8.ofNat n, ?_, Or.inl (det_short short)⟩
    rw [UInt8.toNat_ofNat']
    omega
  · refine ⟨UInt8.ofNat (0x80 ||| n >>> 8), ?_, Or.inr ⟨lowByte n, det_long (by omega)⟩⟩
    rw [mark_toNat bounded]
    omega

/-- Every shipped DSRCmsgID is below 256, and none is 0 or 3. -/
theorem shipped_unknown {hi lo : UInt8} {rest : List UInt8}
    (outside : hi.toNat ≠ 0 ∨ lo.toNat = 0 ∨ lo.toNat = 3) :
    ¬ Known waveJson (hi :: lo :: rest) := by
  intro known
  have member := shipped_known_iff.mp known
  have head : headWord (hi :: lo :: rest) = 256 * hi.toNat + lo.toNat := word_eq hi lo
  simp only [head, shippedIds, List.mem_cons, List.not_mem_nil, or_false] at member
  omega

/-- A delivered BSM frame starts with its DSRCmsgID, 0x0014. -/
theorem bsm_shape {inner : List UInt8} (delivers : Delivers waveJson inner)
    (bsm : headWord inner = 20) : ∃ rest, inner = 0x00 :: 0x14 :: rest := by
  have size := candidate_length delivers.1
  match inner, size with
  | hi :: lo :: rest, _ =>
      have value : 256 * hi.toNat + lo.toNat = 20 := (word_eq hi lo).symm.trans bsm
      have low := lo.toNat_lt
      have first : hi = 0x00 := UInt8.toNat_inj.mp (show hi.toNat = 0 by omega)
      have second : lo = 0x14 := UInt8.toNat_inj.mp (show lo.toNat = 20 by omega)
      exact ⟨rest, by rw [first, second]⟩

/-- The bytes of an envelope in front of the inner frame. -/
def envelopeHeader (inner : List UInt8) : List UInt8 :=
  [0x00, 0x20] ++ det (bsmElement inner).length ++ ([0x03, 0x80] ++ det inner.length)

theorem envelope_eq (inner : List UInt8) : envelope inner = envelopeHeader inner ++ inner := by
  simp [envelope, envelopeHeader, bsmElement]

/-- No index in `front`, with `back` behind it, starts with a DSRCmsgID. -/
def NoneKnown (front back : List UInt8) : Prop :=
  ∀ i < front.length, ¬ Known waveJson ((front ++ back).drop i)

theorem NoneKnown.append {front middle back : List UInt8} (first : NoneKnown front (middle ++ back))
    (second : NoneKnown middle back) : NoneKnown (front ++ middle) back := by
  intro i below
  rw [List.append_assoc]
  by_cases inFront : i < front.length
  · exact first i inFront
  · rw [List.drop_append, List.drop_eq_nil_of_le (Nat.le_of_not_lt inFront), List.nil_append]
    apply second
    rw [List.length_append] at below
    omega

theorem noneKnown_byte {byte : UInt8} {back : List UInt8} (mark : byte.toNat ≠ 0)
    (more : back ≠ []) : NoneKnown [byte] back := by
  obtain ⟨next, rest, rfl⟩ := List.exists_cons_of_ne_nil more
  intro i below
  cases i with
  | zero => exact shipped_unknown (Or.inl mark)
  | succ i => simp at below

/-- A determinant holds no DSRCmsgID when the byte behind it is 0 or 3. -/
theorem noneKnown_det {n : Nat} (positive : 0 < n) (bounded : n ≤ 16383) {next : UInt8}
    {back : List UInt8} (behind : next.toNat = 0 ∨ next.toNat = 3) :
    NoneKnown (det n) (next :: back) := by
  obtain ⟨first, mark, shape⟩ := det_shape positive bounded
  rcases shape with form | ⟨second, form⟩
  · rw [form]
    exact noneKnown_byte mark (List.cons_ne_nil next back)
  · intro i below
    rw [form] at below ⊢
    match i, below with
    | 0, _ => exact shipped_unknown (Or.inl mark)
    | 1, _ => exact shipped_unknown (Or.inr behind)

/-- The bytes of an envelope between its first byte and the inner frame. -/
def envelopeMiddle (inner : List UInt8) : List UInt8 :=
  [0x20] ++ (det (bsmElement inner).length ++ ([0x03] ++ ([0x80] ++ det inner.length)))

theorem envelopeHeader_eq (inner : List UInt8) :
    envelopeHeader inner = 0x00 :: envelopeMiddle inner := by
  simp [envelopeHeader, envelopeMiddle]

/-- The sizes an envelope of at most 16383 bytes can have inside. -/
theorem envelope_sizes {inner : List UInt8} (short : (envelope inner).length ≤ 16383) :
    inner.length ≤ (bsmElement inner).length ∧ (bsmElement inner).length ≤ 16383 := by
  simp only [envelope, bsmElement, List.length_append] at short ⊢
  omega

/-- No byte pair behind the first, the one that ends in the inner frame included, is a
DSRCmsgID. -/
theorem envelope_noneKnown {inner rest : List UInt8} (bsm : inner = 0x00 :: 0x14 :: rest)
    (short : (envelope inner).length ≤ 16383) : NoneKnown (envelopeMiddle inner) inner := by
  obtain ⟨inside, fits⟩ := envelope_sizes short
  have nonempty : 0 < inner.length := by simp [bsm]
  have filled : inner ≠ [] := by simp [bsm]
  have innerDet : NoneKnown (det inner.length) inner := by
    have quiet : NoneKnown (det inner.length) (0x00 :: 0x14 :: rest) :=
      noneKnown_det nonempty (by omega) (Or.inl rfl)
    rwa [← bsm] at quiet
  have outerDet : NoneKnown (det (bsmElement inner).length)
      ([0x03] ++ ([0x80] ++ det inner.length) ++ inner) :=
    noneKnown_det (by omega) fits (Or.inr rfl)
  -- every other byte of the header is not 0
  apply NoneKnown.append (noneKnown_byte (by decide) (by simp))
  apply NoneKnown.append outerDet
  apply NoneKnown.append (noneKnown_byte (by decide) (by simp))
  exact NoneKnown.append (noneKnown_byte (by decide) (by simp [filled])) innerDet

/-- 0x0380 is at 3 or 4, and 0x0014 at 6 to 8. -/
theorem envelope_pattern {inner rest : List UInt8} (bsm : inner = 0x00 :: 0x14 :: rest)
    (short : (envelope inner).length ≤ 16383) : BsmPattern (envelope inner) := by
  obtain ⟨inside, fits⟩ := envelope_sizes short
  have nonempty : 0 < inner.length := by simp [bsm]
  obtain ⟨outer, -, outerShape⟩ := det_shape (by omega) fits
  obtain ⟨first, -, innerShape⟩ := det_shape nonempty (by omega)
  rw [envelope_eq, envelopeHeader]
  -- one layout for each choice of the two forms
  rcases outerShape with outerForm | ⟨outerLow, outerForm⟩ <;>
    rcases innerShape with innerForm | ⟨innerLow, innerForm⟩ <;>
    rw [outerForm, innerForm, bsm]
  · exact ⟨3, by omega, by omega, rfl, 6, by omega, by omega, rfl⟩
  · exact ⟨3, by omega, by omega, rfl, 7, by omega, by omega, rfl⟩
  · exact ⟨4, by omega, by omega, rfl, 7, by omega, by omega, rfl⟩
  · exact ⟨4, by omega, by omega, rfl, 8, by omega, by omega, rfl⟩

section Envelope

variable {files : WaveFiles} {c : BaseRadioClient}

/-- **A BSM in its envelope arrives.**  Whatever BSM frame `process` raises on its own, it
raises out of the envelope: once, unchanged and with the BSM DSRCmsgID. -/
theorem enveloped_bsm_delivered (loaded : Loaded files waveJson c) {inner : List UInt8}
    (delivered : signals files c inner = [⟨inner, 20⟩])
    (short : (envelope inner).length ≤ 16383) :
    signals files c (envelope inner) = [⟨inner, 20⟩] := by
  obtain ⟨delivers, bsm⟩ := (signals_whole_iff loaded).mp delivered
  obtain ⟨rest, shape⟩ := bsm_shape delivers bsm.symm
  have pattern := envelope_pattern shape short
  have header : headWord (envelope inner) = 32 := rfl
  have skips : ∀ i < (envelopeHeader inner).length,
      ¬ Ends waveJson ((envelopeHeader inner ++ inner).drop i) := by
    intro i below ends
    cases i with
    | zero =>
        -- the T-header itself: short enough, and skipped if its length field agrees
        rw [← envelope_eq] at ends
        obtain ⟨known, many | ⟨-, kept⟩⟩ := ends
        · exact absurd many (Nat.not_lt.mpr short)
        · exact kept ((shipped_skipped_iff known).mpr ⟨header, pattern⟩)
    | succ i =>
        rw [envelopeHeader_eq] at below ends
        exact envelope_noneKnown shape short i (Nat.lt_of_succ_lt_succ below) ends.1
  rw [envelope_eq, signals_append_of_skips loaded skips, delivered]

/-- The envelope of a BSM with a payload of one byte, over the shipped table. -/
theorem enveloped_bsm_frame_delivered :
    signals shippedFiles shippedClient (envelope (frame 20 [7])) = [⟨frame 20 [7], 20⟩] :=
  enveloped_bsm_delivered shipped_loaded (by decide) (by decide)

end Envelope

end V2xRosDriver.Radio
