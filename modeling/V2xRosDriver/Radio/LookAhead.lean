/-
# Radio.LookAhead -- what the BSM-PSID look-ahead finds and how far it reads

`isValidMsgAssumingBSMPSID` looks for 0x0380 among six words and, from each 0x0380, for
the BSM DSRCmsgID among six more.  It answers exactly when the pair lies in the datagram
(`BsmPattern`), denies it exactly when there is no pair and every word it has to visit
lies in the datagram (`LookAheadFits`), and leaves the datagram otherwise
(`bsmPsid_spec`).

The loop bound of `process` only promises four bytes, so the look-ahead of a short frame
can leave the datagram.  `process_in_bounds_iff` says for which datagrams it does.
-/
import V2xRosDriver.Radio.Scanner

namespace V2xRosDriver.Radio

set_option autoImplicit false

open V2xRosDriver.Theory.Numerals
open V2xRosDriver.Theory.SuffixScan

/-! ## Single words -/

theorem wordAt_ok_iff {xs : List UInt8} {k value : Nat} :
    wordAt xs k = .ok value ↔ k + 1 < xs.length ∧ headWord (xs.drop k) = value := by
  by_cases inside : k + 1 < xs.length
  · simp [wordAt_of_lt inside, inside]
  · simp [wordAt_of_le (Nat.le_of_not_lt inside), inside]

/-! ## The two loops -/

/-- 20 is one of the `n` words from `j` on. -/
def BsmIdFrom (xs : List UInt8) (n j : Nat) : Prop :=
  ∃ k, j ≤ k ∧ k < j + n ∧ wordAt xs k = .ok 20

/-- 0x0380 is one of the `n` words from `i` on, and 20 is less than six words behind it. -/
def BsmPatternFrom (xs : List UInt8) (n i : Nat) : Prop :=
  ∃ o, i ≤ o ∧ o < i + n ∧ wordAt xs o = .ok 896 ∧ BsmIdFrom xs 6 o

/-- The `n` words from `i` on, and the six from each 0x0380 among them, are in range. -/
def FitsFrom (xs : List UInt8) (n i : Nat) : Prop :=
  (n = 0 ∨ i + n < xs.length) ∧
    ∀ o, i ≤ o → o < i + n → wordAt xs o = .ok 896 → o + 6 < xs.length

theorem bsmIdFrom_succ {xs : List UInt8} {n j value : Nat} (read : wordAt xs j = .ok value)
    (other : value ≠ 20) : BsmIdFrom xs (n + 1) j ↔ BsmIdFrom xs n (j + 1) := by
  constructor
  · rintro ⟨k, low, high, found⟩
    have later : j ≠ k := by
      rintro rfl
      rw [read] at found
      exact other (Except.ok.inj found)
    exact ⟨k, by omega, by omega, found⟩
  · rintro ⟨k, low, high, found⟩
    exact ⟨k, by omega, by omega, found⟩

theorem bsmMsgIdLoop_spec (xs : List UInt8) (n j : Nat) :
    (BsmIdFrom xs n j ∧ bsmMsgIdLoop xs n j = .ok true) ∨
    (¬ BsmIdFrom xs n j ∧ (n = 0 ∨ j + n < xs.length) ∧ bsmMsgIdLoop xs n j = .ok false) ∨
    (¬ BsmIdFrom xs n j ∧ xs.length ≤ j + n ∧ bsmMsgIdLoop xs n j = .error .badAccess) := by
  induction n generalizing j with
  | zero =>
      refine Or.inr (Or.inl ⟨?_, Or.inl rfl, rfl⟩)
      rintro ⟨k, low, high, -⟩
      omega
  | succ n ih =>
      by_cases inside : j + 1 < xs.length
      · have read := wordAt_of_lt inside
        by_cases bsm : headWord (xs.drop j) = 20
        · refine Or.inl ⟨⟨j, le_refl j, by omega, by rw [read, bsm]⟩, ?_⟩
          simp only [bsmMsgIdLoop, read, bind, Except.bind, bsm]
          rfl
        · have onward : bsmMsgIdLoop xs (n + 1) j = bsmMsgIdLoop xs n (j + 1) := by
            simp only [bsmMsgIdLoop, read, bind, Except.bind, beq_iff_eq, if_neg bsm]
          rw [onward, bsmIdFrom_succ read bsm]
          rcases ih (j + 1) with found | ⟨absent, fits, ended⟩ | ⟨absent, outside, ended⟩
          · exact Or.inl found
          · exact Or.inr (Or.inl ⟨absent, Or.inr (by omega), ended⟩)
          · exact Or.inr (Or.inr ⟨absent, by omega, ended⟩)
      · have outside : xs.length ≤ j + 1 := Nat.le_of_not_lt inside
        refine Or.inr (Or.inr ⟨?_, by omega, ?_⟩)
        · rintro ⟨k, low, high, found⟩
          have := (wordAt_ok_iff.mp found).1
          omega
        · simp only [bsmMsgIdLoop, wordAt_of_le outside]
          rfl

/-- A first word that is no 0x0380, or has no 20 behind it, is no pattern. -/
theorem bsmPatternFrom_succ {xs : List UInt8} {n i : Nat}
    (alone : wordAt xs i = .ok 896 → ¬ BsmIdFrom xs 6 i) :
    BsmPatternFrom xs (n + 1) i ↔ BsmPatternFrom xs n (i + 1) := by
  constructor
  · rintro ⟨o, low, high, element, bsm⟩
    have later : i ≠ o := by
      rintro rfl
      exact alone element bsm
    exact ⟨o, by omega, by omega, element, bsm⟩
  · rintro ⟨o, low, high, element, bsm⟩
    exact ⟨o, by omega, by omega, element, bsm⟩

/-- A first word that is in range, and has room behind it if it is 0x0380, fits. -/
theorem fitsFrom_succ {xs : List UInt8} {n i : Nat} (inside : i + 1 < xs.length)
    (room : wordAt xs i = .ok 896 → i + 6 < xs.length) :
    FitsFrom xs (n + 1) i ↔ FitsFrom xs n (i + 1) := by
  constructor
  · rintro ⟨range, windows⟩
    exact ⟨by omega, fun o low high => windows o (by omega) (by omega)⟩
  · rintro ⟨range, windows⟩
    refine ⟨by omega, fun o low high element => ?_⟩
    by_cases first : o = i
    · subst first
      exact room element
    · exact windows o (by omega) (by omega) element

theorem bsmElementLoop_spec (xs : List UInt8) (n i : Nat) :
    (BsmPatternFrom xs n i ∧ bsmElementLoop xs n i = .ok true) ∨
    (¬ BsmPatternFrom xs n i ∧ FitsFrom xs n i ∧ bsmElementLoop xs n i = .ok false) ∨
    (¬ BsmPatternFrom xs n i ∧ ¬ FitsFrom xs n i ∧
      bsmElementLoop xs n i = .error .badAccess) := by
  induction n generalizing i with
  | zero =>
      refine Or.inr (Or.inl ⟨?_, ⟨Or.inl rfl, fun o low high => by omega⟩, rfl⟩)
      rintro ⟨o, low, high, -⟩
      omega
  | succ n ih =>
      by_cases inside : i + 1 < xs.length
      · have read := wordAt_of_lt inside
        by_cases element : headWord (xs.drop i) = 896
        · rcases bsmMsgIdLoop_spec xs 6 i with ⟨bsm, inner⟩ | ⟨absent, range, inner⟩ |
            ⟨absent, outside, inner⟩
          · refine Or.inl ⟨⟨i, le_refl i, by omega, by rw [read, element], bsm⟩, ?_⟩
            simp only [bsmElementLoop, read, bind, Except.bind, element, inner]
            rfl
          · -- 0x0380 without a 20 behind it: the search goes on
            have onward : bsmElementLoop xs (n + 1) i = bsmElementLoop xs n (i + 1) := by
              simp only [bsmElementLoop, read, bind, Except.bind, element, inner]
              rfl
            rw [bsmPatternFrom_succ fun _ => absent, fitsFrom_succ inside fun _ => by omega, onward]
            exact ih (i + 1)
          · refine Or.inr (Or.inr ⟨?_, ?_, ?_⟩)
            · rintro ⟨o, low, high, -, k, kLow, kHigh, found⟩
              have := (wordAt_ok_iff.mp found).1
              exact absent ⟨k, by omega, by omega, found⟩
            · rintro ⟨-, windows⟩
              have := windows i (le_refl i) (by omega) (by rw [read, element])
              omega
            · simp only [bsmElementLoop, read, bind, Except.bind, element, inner]
              rfl
        · have onward : bsmElementLoop xs (n + 1) i = bsmElementLoop xs n (i + 1) := by
            simp only [bsmElementLoop, read, bind, Except.bind, beq_iff_eq, if_neg element]
          have other : wordAt xs i ≠ .ok 896 := fun found =>
            element (wordAt_ok_iff.mp found).2
          rw [bsmPatternFrom_succ fun found => absurd found other,
            fitsFrom_succ inside fun found => absurd found other, onward]
          exact ih (i + 1)
      · have outside : xs.length ≤ i + 1 := Nat.le_of_not_lt inside
        refine Or.inr (Or.inr ⟨?_, ?_, ?_⟩)
        · rintro ⟨o, low, high, element, -⟩
          have := (wordAt_ok_iff.mp element).1
          omega
        · rintro ⟨range, -⟩
          omega
        · simp only [bsmElementLoop, wordAt_of_le outside]
          rfl

/-! ## The look-ahead of one suffix -/

/-- The suffix holds 0x0380 among its first six words and 0x0014 close behind it. -/
def BsmPattern (suffix : List UInt8) : Prop := BsmPatternFrom suffix 6 0

/-- Every word the look-ahead may have to visit lies in the suffix. -/
def LookAheadFits (suffix : List UInt8) : Prop := FitsFrom suffix 6 0

theorem bsmPsid_spec (suffix : List UInt8) :
    (BsmPattern suffix ∧ bsmPsid suffix = .ok true) ∨
    (¬ BsmPattern suffix ∧ LookAheadFits suffix ∧ bsmPsid suffix = .ok false) ∨
    (¬ BsmPattern suffix ∧ ¬ LookAheadFits suffix ∧ bsmPsid suffix = .error .badAccess) :=
  bsmElementLoop_spec suffix 6 0

/-- An exception out of `std::stoi` is never an access out of range. -/
theorem psidLoop_error {msgId : String} {psids : List String} {fault : Fault}
    (failed : psidLoop msgId psids = .error fault) : ∃ error, fault = .stoi error := by
  induction psids with
  | nil => cases failed
  | cons psid rest ih =>
      unfold psidLoop at failed
      cases parsed : stoi16 psid with
      | error error =>
          simp only [parsed, Except.error.injEq] at failed
          exact ⟨error, failed.symm⟩
      | ok value =>
          simp only [parsed] at failed
          split at failed
          · cases failed
          · exact ih failed

theorem psidLoop_cons {id : Nat} {psid : String} {rest : List String} {value : Int}
    (parsed : stoi16 psid = .ok value) :
    psidLoop (toString id) (psid :: rest) =
      if value = id then .ok true else psidLoop (toString id) rest := by
  simp only [psidLoop, parsed, toString_beq_int, decide_eq_true_eq]
  rfl

/-- The loop answers no exactly when every psid parses and none has the value. -/
theorem psidLoop_false_iff {id : Nat} {psids : List String} :
    psidLoop (toString id) psids = .ok false ↔
      ∀ psid ∈ psids, ∃ value, stoi16 psid = .ok value ∧ value ≠ id := by
  induction psids with
  | nil => simp [psidLoop, pure, Except.pure]
  | cons psid rest ih =>
      cases parsed : stoi16 psid with
      | error error => simp [psidLoop, parsed]
      | ok value =>
          rw [psidLoop_cons parsed, List.forall_mem_cons, ← ih]
          by_cases same : value = id <;> simp [parsed, same]

/-- The loop answers yes only on account of a psid with the value. -/
theorem psidLoop_true {id : Nat} {psids : List String}
    (possible : psidLoop (toString id) psids = .ok true) :
    ∃ psid ∈ psids, stoi16 psid = .ok (id : Int) := by
  induction psids with
  | nil => simp [psidLoop, pure, Except.pure] at possible
  | cons psid rest ih =>
      cases parsed : stoi16 psid with
      | error error => simp [psidLoop, parsed] at possible
      | ok value =>
          rw [psidLoop_cons parsed] at possible
          by_cases same : value = id
          · exact ⟨psid, by simp, by rw [parsed, same]⟩
          · rw [if_neg same] at possible
            obtain ⟨other, member, found⟩ := ih possible
            exact ⟨other, by simp [member], found⟩

/-! ## Verdicts, restated -/

section Verdicts

variable (table : List WaveConfigStruct)

/-- A suffix the size check accepts: a known DSRCmsgID, at most 16383 bytes, a length
field that agrees with them. -/
structure Candidate (suffix : List UInt8) : Prop where
  known : Known table suffix
  fits : ¬ Oversize suffix
  consistent : sizeConsistent suffix = true

/-- A candidate whose DSRCmsgID is also the value of a configured PSID. -/
def PsidCandidate (suffix : List UInt8) : Prop :=
  Candidate table suffix ∧ possiblePsid table suffix = .ok true

/-- A candidate the heuristic takes for a BSM PSID header. -/
def Skipped (suffix : List UInt8) : Prop :=
  possiblePsid table suffix = .ok true ∧ BsmPattern suffix

/-- The scan goes no further than this suffix. -/
def Ends (suffix : List UInt8) : Prop :=
  Known table suffix ∧ (Oversize suffix ∨ sizeConsistent suffix = true ∧ ¬ Skipped table suffix)

variable {table}

theorem judge_of_candidate {suffix : List UInt8} (candidate : Candidate table suffix) :
    judge table suffix = psidVerdict suffix (skippedAsPsid table suffix) := by
  rw [judge, if_neg (not_not.mpr candidate.known), if_neg candidate.fits,
    if_neg (by simp [candidate.consistent])]

/-- A suffix that is no candidate never reaches the PSID heuristic. -/
theorem judge_of_not_candidate {suffix : List UInt8} (rejected : ¬ Candidate table suffix) :
    judge table suffix = .skip ∨ judge table suffix = .stop := by
  unfold judge
  split
  · exact Or.inl rfl
  · rename_i known
    split
    · exact Or.inr rfl
    · rename_i fits
      split
      · exact Or.inl rfl
      · rename_i consistent
        exact absurd ⟨not_not.mp known, fits, by simpa using consistent⟩ rejected

theorem candidate_length {suffix : List UInt8} (candidate : Candidate table suffix) :
    4 ≤ suffix.length := by
  have consistent := candidate.consistent
  match suffix with
  | [] | [_] | [_, _] | [_, _, _] => simp [sizeConsistent] at consistent
  | _ :: _ :: _ :: _ :: _ => simp

/-- A candidate is skipped, delivered, or left by a fault. -/
theorem judge_candidate_cases {suffix : List UInt8} (candidate : Candidate table suffix) :
    (Skipped table suffix ∧ judge table suffix = .skip) ∨
    (¬ Skipped table suffix ∧ judge table suffix = .deliver ⟨suffix, headWord suffix⟩) ∨
    (¬ Skipped table suffix ∧ possiblePsid table suffix = .ok true ∧
      ¬ LookAheadFits suffix ∧ judge table suffix = .fail .badAccess) ∨
    (¬ Skipped table suffix ∧ ∃ error, possiblePsid table suffix = .error (.stoi error) ∧
      judge table suffix = .fail (.stoi error)) := by
  rw [judge_of_candidate candidate]
  unfold Skipped skippedAsPsid
  cases psid : possiblePsid table suffix with
  | error fault =>
      obtain ⟨error, rfl⟩ := psidLoop_error psid
      exact Or.inr (Or.inr (Or.inr ⟨by simp, error, rfl, rfl⟩))
  | ok possible =>
      cases possible with
      | false => exact Or.inr (Or.inl ⟨by simp, rfl⟩)
      | true =>
          rcases bsmPsid_spec suffix with ⟨found, ended⟩ | ⟨absent, -, ended⟩ |
            ⟨absent, outside, ended⟩
          · exact Or.inl ⟨⟨rfl, found⟩, by simp only [ended, psidVerdict]⟩
          · exact Or.inr (Or.inl ⟨fun skipped => absent skipped.2,
              by simp only [ended, psidVerdict]⟩)
          · exact Or.inr (Or.inr (Or.inl ⟨fun skipped => absent skipped.2, rfl, outside,
              by simp only [ended, psidVerdict]⟩))

theorem judge_skip_iff {suffix : List UInt8} :
    judge table suffix = .skip ↔ ¬ Ends table suffix := by
  by_cases known : Known table suffix
  · by_cases oversize : Oversize suffix
    · simp [judge, Ends, known, oversize]
    · cases consistent : sizeConsistent suffix with
      | false => simp [judge, Ends, known, oversize, consistent]
      | true =>
          have candidate : Candidate table suffix := ⟨known, oversize, consistent⟩
          rcases judge_candidate_cases candidate with ⟨skipped, verdict⟩ | ⟨kept, verdict⟩ |
            ⟨kept, -, -, verdict⟩ | ⟨kept, error, -, verdict⟩
          · simp [verdict, Ends, oversize, skipped]
          · simp [verdict, Ends, known, consistent, kept]
          · simp [verdict, Ends, known, consistent, kept]
          · simp [verdict, Ends, known, consistent, kept]
  · simp [judge, Ends, known]

variable (table) in
/-- A candidate that is raised: not a possible PSID, or a possible PSID in front of no BSM. -/
def Delivers (suffix : List UInt8) : Prop :=
  Candidate table suffix ∧
    (possiblePsid table suffix = .ok false ∨
      possiblePsid table suffix = .ok true ∧ ¬ BsmPattern suffix ∧ LookAheadFits suffix)

theorem judge_deliver_iff {suffix : List UInt8} {signal : MessageReceived} :
    judge table suffix = .deliver signal ↔
      Delivers table suffix ∧ signal = ⟨suffix, headWord suffix⟩ := by
  constructor
  · intro verdict
    by_cases candidate : Candidate table suffix
    · rw [judge_of_candidate candidate] at verdict
      unfold skippedAsPsid at verdict
      cases psid : possiblePsid table suffix with
      | error fault => simp [psid, psidVerdict] at verdict
      | ok possible =>
          cases possible with
          | false =>
              simp only [psid, psidVerdict, Verdict.deliver.injEq] at verdict
              exact ⟨⟨candidate, Or.inl psid⟩, verdict.symm⟩
          | true =>
              rcases bsmPsid_spec suffix with ⟨-, ended⟩ | ⟨absent, fits, ended⟩ | ⟨-, -, ended⟩
              · simp [psid, ended, psidVerdict] at verdict
              · simp only [psid, ended, psidVerdict, Verdict.deliver.injEq] at verdict
                exact ⟨⟨candidate, Or.inr ⟨psid, absent, fits⟩⟩, verdict.symm⟩
              · simp [psid, ended, psidVerdict] at verdict
    · rcases judge_of_not_candidate candidate with other | other <;> rw [other] at verdict <;>
        cases verdict
  · rintro ⟨⟨candidate, psid | ⟨psid, absent, fits⟩⟩, rfl⟩
    · rw [judge_of_candidate candidate, skippedAsPsid, psid]
      rfl
    · rw [judge_of_candidate candidate, skippedAsPsid, psid]
      rcases bsmPsid_spec suffix with ⟨found, -⟩ | ⟨-, -, ended⟩ | ⟨-, outside, -⟩
      · exact absurd found absent
      · simp only [ended, psidVerdict]
      · exact absurd fits outside

theorem Delivers.ends {suffix : List UInt8} (delivers : Delivers table suffix) :
    Ends table suffix := by
  have decisive : judge table suffix ≠ .skip := by
    rw [judge_deliver_iff.mpr ⟨delivers, rfl⟩]
    simp
  exact not_not.mp fun skips => decisive (judge_skip_iff.mpr skips)

theorem judge_badAccess_iff {suffix : List UInt8} :
    judge table suffix = .fail .badAccess ↔
      PsidCandidate table suffix ∧ ¬ (BsmPattern suffix ∨ LookAheadFits suffix) := by
  constructor
  · intro verdict
    by_cases candidate : Candidate table suffix
    · rcases judge_candidate_cases candidate with ⟨-, other⟩ | ⟨-, other⟩ |
        ⟨kept, possible, outside, -⟩ | ⟨-, error, -, other⟩
      · rw [other] at verdict; cases verdict
      · rw [other] at verdict; cases verdict
      · refine ⟨⟨candidate, possible⟩, ?_⟩
        rintro (pattern | fits)
        · exact kept ⟨possible, pattern⟩
        · exact outside fits
      · rw [other] at verdict; cases verdict
    · rcases judge_of_not_candidate candidate with other | other <;> rw [other] at verdict <;>
        cases verdict
  · rintro ⟨⟨candidate, possible⟩, uncovered⟩
    rw [judge_of_candidate candidate, skippedAsPsid, possible]
    rcases bsmPsid_spec suffix with ⟨found, -⟩ | ⟨-, fits, -⟩ | ⟨-, -, ended⟩
    · exact absurd (Or.inl found) uncovered
    · exact absurd (Or.inr fits) uncovered
    · simp only [ended]
      rfl

end Verdicts

/-! ## What `process` raises, and where it reads -/

section Process

variable {files : WaveFiles} {table : List WaveConfigStruct} {c : BaseRadioClient}

theorem skipsBelow_iff {data : List UInt8} {i : Nat} :
    SkipsBelow (judge table) data i ↔ ∀ j < i, ¬ Ends table (data.drop j) := by
  simp only [SkipsBelow, judge_skip_iff]

theorem judged_of_candidate {data : List UInt8} {i : Nat}
    (candidate : Candidate table (data.drop i)) : Judged 3 data i := by
  have size := candidate_length candidate
  rw [List.length_drop] at size
  unfold Judged
  omega

/-- `process` raises the first suffix that delivers, if nothing ended the scan before it. -/
theorem signals_eq_singleton_iff (loaded : Loaded files table c) {data : List UInt8}
    {signal : MessageReceived} :
    signals files c data = [signal] ↔
      ∃ i, Delivers table (data.drop i) ∧ (∀ j < i, ¬ Ends table (data.drop j)) ∧
        signal = ⟨data.drop i, headWord (data.drop i)⟩ := by
  have delivered : signals files c data = [signal] ↔ inbound table data = .delivered signal := by
    rw [signals_eq loaded]
    cases inbound table data <;> simp
  rw [delivered, inbound, scan_delivered_iff]
  constructor
  · rintro ⟨i, -, skips, verdict⟩
    obtain ⟨delivers, same⟩ := judge_deliver_iff.mp verdict
    exact ⟨i, delivers, skipsBelow_iff.mp skips, same⟩
  · rintro ⟨i, delivers, skips, same⟩
    exact ⟨i, judged_of_candidate delivers.1, skipsBelow_iff.mpr skips,
      judge_deliver_iff.mpr ⟨delivers, same⟩⟩

/-- One call raises one signal or none. -/
theorem signals_cases (loaded : Loaded files table c) (data : List UInt8) :
    signals files c data = [] ∨ ∃ signal, signals files c data = [signal] := by
  rw [signals_eq loaded]
  cases inbound table data with
  | delivered signal => exact Or.inr ⟨signal, rfl⟩
  | _ => exact Or.inl rfl

theorem ending_badAccess_iff (loaded : Loaded files table c) {data : List UInt8} :
    ending files c data = .error .badAccess ↔
      ∃ i, PsidCandidate table (data.drop i) ∧ (∀ j < i, ¬ Ends table (data.drop j)) ∧
        ¬ (BsmPattern (data.drop i) ∨ LookAheadFits (data.drop i)) := by
  have failed : ending files c data = .error .badAccess ↔
      inbound table data = .failed .badAccess := by
    rw [ending_eq loaded]
    cases inbound table data <;> simp
  rw [failed, inbound, scan_failed_iff]
  constructor
  · rintro ⟨i, -, skips, verdict⟩
    obtain ⟨candidate, uncovered⟩ := judge_badAccess_iff.mp verdict
    exact ⟨i, candidate, skipsBelow_iff.mp skips, uncovered⟩
  · rintro ⟨i, candidate, skips, uncovered⟩
    exact ⟨i, judged_of_candidate candidate.1, skipsBelow_iff.mpr skips,
      judge_badAccess_iff.mpr ⟨candidate, uncovered⟩⟩

/-- **Exactly which datagrams are read past their end.**  The reads of `process` all lie in
the datagram if and only if, at every candidate the PSID heuristic is asked about, the
look-ahead finds its pair or has room for all its words, unless the scan ended before. -/
theorem process_in_bounds_iff (loaded : Loaded files table c) (data : List UInt8) :
    ending files c data ≠ .error .badAccess ↔
      ∀ i, PsidCandidate table (data.drop i) →
        (BsmPattern (data.drop i) ∨ LookAheadFits (data.drop i)) ∨
          ∃ j < i, Ends table (data.drop j) := by
  rw [ne_eq, ending_badAccess_iff loaded]
  constructor
  · intro safe i candidate
    by_contra uncovered
    rw [not_or] at uncovered
    exact safe ⟨i, candidate, fun j below ends => uncovered.2 ⟨j, below, ends⟩, uncovered.1⟩
  · rintro covered ⟨i, candidate, skips, uncovered⟩
    rcases covered i candidate with here | ⟨j, below, ends⟩
    · exact uncovered here
    · exact skips j below ends

/-- A PSM frame of twelve bytes, long enough for every look-ahead. -/
def psmFrame : List UInt8 := [0x00, 0x20, 0x09, 1, 2, 3, 4, 5, 6, 7, 8, 9]

theorem psmFrame_in_bounds_iff :
    ending shippedFiles shippedClient psmFrame ≠ .error .badAccess ↔
      ∀ i, PsidCandidate waveJson (psmFrame.drop i) →
        (BsmPattern (psmFrame.drop i) ∨ LookAheadFits (psmFrame.drop i)) ∨
          ∃ j < i, Ends waveJson (psmFrame.drop j) :=
  process_in_bounds_iff shipped_loaded psmFrame

/-- The shortest PSM frame, DSRCmsgID 32 and a payload of one byte, is read past its end:
0x0020 is also the BSM PSID, and the look-ahead visits the word at index 3. -/
theorem short_psm_frame_read_past_end :
    Loaded shippedFiles waveJson shippedClient ∧ (∀ entry ∈ waveJson, IsNumeral entry.psid) ∧
      ending shippedFiles shippedClient [0x00, 0x20, 0x01, 0x00] = .error .badAccess :=
  ⟨shipped_loaded, by decide, by decide⟩

end Process

end V2xRosDriver.Radio
