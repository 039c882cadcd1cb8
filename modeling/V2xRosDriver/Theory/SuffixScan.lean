/-
# Theory.SuffixScan -- a left-to-right scan is decided by its first verdict

A scanner slides over a list and judges the suffix at each offset: skip it, stop
without a result, deliver a value, or fail.  Only suffixes longer than `width` are
judged; a shorter one ends the scan.  Because a verdict looks at nothing but the
suffix, the whole scan is a function of the leftmost offset whose verdict is not
`skip` (`scan_delivered_iff`, `scan_failed_iff`), and elements in front that are all
skipped can be removed (`scan_append_of_skips`).
-/
import Mathlib.Data.Nat.Find
import Mathlib.Tactic.Common

namespace V2xRosDriver.Theory.SuffixScan

set_option autoImplicit false

universe u v w

/-- What the scanner decides about one suffix. -/
inductive Verdict (β : Type v) (ε : Type w) where
  | skip
  | stop
  | deliver (value : β)
  | fail (error : ε)
  deriving DecidableEq

/-- How a whole scan ends. -/
inductive Outcome (β : Type v) (ε : Type w) where
  | silent
  | delivered (value : β)
  | failed (error : ε)
  deriving DecidableEq

/-- How the scan ends given the verdict here and the outcome `further` of going on. -/
def Verdict.conclude {β : Type v} {ε : Type w} (verdict : Verdict β ε) (further : Outcome β ε) :
    Outcome β ε :=
  match verdict with
  | .skip => further
  | .stop => .silent
  | .deliver value => .delivered value
  | .fail error => .failed error

variable {α : Type u} {β : Type v} {ε : Type w} (width : Nat) (judge : List α → Verdict β ε)

/-- Judge every suffix longer than `width`, leftmost first, until one is not skipped. -/
def scan : List α → Outcome β ε
  | [] => .silent
  | x :: xs =>
      if width < xs.length + 1 then (judge (x :: xs)).conclude (scan xs) else .silent

/-- Offset `i` carries a judged suffix. -/
def Judged (xs : List α) (i : Nat) : Prop := i + width < xs.length

/-- Every offset below `i` was judged a skip. -/
def SkipsBelow (xs : List α) (i : Nat) : Prop := ∀ j < i, judge (xs.drop j) = .skip

variable {width judge}

theorem scan_short {xs : List α} (short : xs.length ≤ width) : scan width judge xs = .silent := by
  cases xs with
  | nil => rfl
  | cons x xs =>
      have tooShort : ¬ width < xs.length + 1 := by
        simp only [List.length_cons] at short
        omega
      simp only [scan, tooShort, if_false]

theorem scan_of_judged {x : α} {xs : List α} (long : width < xs.length + 1) :
    scan width judge (x :: xs) = (judge (x :: xs)).conclude (scan width judge xs) := by
  simp only [scan, long, if_true]

theorem skipsBelow_cons {x : α} {xs : List α} {i : Nat} :
    SkipsBelow judge (x :: xs) (i + 1) ↔ judge (x :: xs) = .skip ∧ SkipsBelow judge xs i := by
  constructor
  · intro skips
    exact ⟨skips 0 (Nat.succ_pos i), fun j below => skips (j + 1) (Nat.succ_lt_succ below)⟩
  · rintro ⟨first, later⟩ j below
    cases j with
    | zero => exact first
    | succ j => exact later j (Nat.lt_of_succ_lt_succ below)

/-- Offsets that are all skipped move the scan along without changing how it ends. -/
theorem scan_drop_of_skips {xs : List α} {i : Nat} (inside : i + width ≤ xs.length)
    (skips : SkipsBelow judge xs i) : scan width judge xs = scan width judge (xs.drop i) := by
  induction i generalizing xs with
  | zero => rfl
  | succ i ih =>
      cases xs with
      | nil => simp only [List.length_nil] at inside; omega
      | cons x xs =>
          simp only [List.length_cons] at inside
          obtain ⟨first, later⟩ := skipsBelow_cons.mp skips
          rw [scan_of_judged (by omega), first]
          exact ih (by omega) later

/-- Leading elements whose suffixes are all skipped, as far as they are judged, are transparent. -/
theorem scan_append_of_skips {front rest : List α}
    (skips : ∀ i < front.length, Judged width (front ++ rest) i →
      judge ((front ++ rest).drop i) = .skip) :
    scan width judge (front ++ rest) = scan width judge rest := by
  induction front with
  | nil => rfl
  | cons x front ih =>
      by_cases long : width < (front ++ rest).length + 1
      · have first : judge (x :: (front ++ rest)) = .skip := by
          apply skips 0 (Nat.succ_pos _)
          simp only [Judged, List.cons_append, List.length_cons]
          omega
        rw [List.cons_append, scan_of_judged long, first]
        apply ih
        intro i below judged
        apply skips (i + 1) (Nat.succ_lt_succ below)
        simp only [Judged, List.cons_append, List.length_cons] at judged ⊢
        omega
      · have short : rest.length ≤ width := by
          simp only [List.length_append] at long
          omega
        rw [scan_short short, scan_short]
        simp only [List.cons_append, List.length_cons]
        omega

/-- How the scan ends once the leftmost offset that is not skipped is known. -/
theorem scan_of_first {xs : List α} {i : Nat} (judged : Judged width xs i)
    (skips : SkipsBelow judge xs i) (decisive : judge (xs.drop i) ≠ .skip) :
    scan width judge xs = (judge (xs.drop i)).conclude .silent := by
  have inside : i < xs.length := by unfold Judged at judged; omega
  rw [scan_drop_of_skips (by unfold Judged at judged; omega) skips]
  obtain ⟨x, rest, shape⟩ : ∃ x rest, xs.drop i = x :: rest :=
    ⟨xs[i], xs.drop (i + 1), List.drop_eq_getElem_cons inside⟩
  have long : width < rest.length + 1 := by
    have size := congrArg List.length shape
    simp only [List.length_drop, List.length_cons] at size
    unfold Judged at judged
    omega
  rw [shape] at decisive ⊢
  rw [scan_of_judged long]
  cases verdict : judge (x :: rest) with
  | skip => exact absurd verdict decisive
  | _ => rfl

variable (width judge) in
/-- Either some leftmost judged offset is not skipped, or every judged offset is skipped. -/
theorem exists_first_or_all_skipped (xs : List α) :
    (∃ i, Judged width xs i ∧ SkipsBelow judge xs i ∧ judge (xs.drop i) ≠ .skip) ∨
      ∀ i, Judged width xs i → judge (xs.drop i) = .skip := by
  by_cases found : ∃ i, Judged width xs i ∧ judge (xs.drop i) ≠ .skip
  · left
    classical
    obtain ⟨i, ⟨judged, decisive⟩, least⟩ := Nat.findX found
    refine ⟨i, judged, fun j below => ?_, decisive⟩
    by_contra early
    have judgedEarly : Judged width xs j := by unfold Judged at judged ⊢; omega
    exact least j below ⟨judgedEarly, early⟩
  · right
    intro i judged
    by_contra decisive
    exact found ⟨i, judged, decisive⟩

/-- A scan whose judged offsets are all skipped ends in silence. -/
theorem scan_of_all_skipped {xs : List α}
    (skips : ∀ i, Judged width xs i → judge (xs.drop i) = .skip) :
    scan width judge xs = .silent := by
  have whole : scan width judge (xs ++ []) = scan width judge [] :=
    scan_append_of_skips fun i _ judged => by
      simpa using skips i (by simpa [Judged] using judged)
  rw [List.append_nil] at whole
  rw [whole, scan_short (Nat.zero_le _)]

/-- The value delivered is the verdict at the leftmost offset that is not skipped. -/
theorem scan_delivered_iff {xs : List α} {value : β} :
    scan width judge xs = .delivered value ↔
      ∃ i, Judged width xs i ∧ SkipsBelow judge xs i ∧ judge (xs.drop i) = .deliver value := by
  constructor
  · intro delivered
    rcases exists_first_or_all_skipped width judge xs with
      ⟨i, judged, skips, decisive⟩ | skips
    · rw [scan_of_first judged skips decisive] at delivered
      refine ⟨i, judged, skips, ?_⟩
      cases verdict : judge (xs.drop i) <;> simp_all [Verdict.conclude]
    · rw [scan_of_all_skipped skips] at delivered
      cases delivered
  · rintro ⟨i, judged, skips, verdict⟩
    rw [scan_of_first judged skips (by simp [verdict]), verdict]
    rfl

theorem scan_failed_iff {xs : List α} {error : ε} :
    scan width judge xs = .failed error ↔
      ∃ i, Judged width xs i ∧ SkipsBelow judge xs i ∧ judge (xs.drop i) = .fail error := by
  constructor
  · intro failed
    rcases exists_first_or_all_skipped width judge xs with
      ⟨i, judged, skips, decisive⟩ | skips
    · rw [scan_of_first judged skips decisive] at failed
      refine ⟨i, judged, skips, ?_⟩
      cases verdict : judge (xs.drop i) <;> simp_all [Verdict.conclude]
    · rw [scan_of_all_skipped skips] at failed
      cases failed
  · rintro ⟨i, judged, skips, verdict⟩
    rw [scan_of_first judged skips (by simp [verdict]), verdict]
    rfl

end V2xRosDriver.Theory.SuffixScan
