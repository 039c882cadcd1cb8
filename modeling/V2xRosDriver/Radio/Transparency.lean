/-
# Radio.Transparency -- what bytes in front of a message do to the scan

An index is accepted when its suffix is a candidate the heuristic does not skip.  Bytes
in front of a message that hold no accepted index ought to be transparent, and they are
wherever the scanner goes on: a rejected index is a skip.  One rejection is not.  A known
DSRCmsgID in front of more than 16383 bytes leaves the loop, so everything behind it is
lost, a valid frame included (`signals_append_iff`).
-/
import V2xRosDriver.Radio.Framing

namespace V2xRosDriver.Radio

set_option autoImplicit false

open V2xRosDriver.Theory.SuffixScan

section Acceptance

variable (table : List WaveConfigStruct)

/-- A candidate that is not skipped as a BSM PSID. -/
def Accepted (suffix : List UInt8) : Prop :=
  Candidate table suffix ∧ ¬ Skipped table suffix

/-- A known DSRCmsgID in front of more bytes than one frame can have. -/
def KnownOversize (suffix : List UInt8) : Prop :=
  Known table suffix ∧ Oversize suffix

variable {table}

/-- Only an accepted suffix and a known oversize one keep the scan from going on. -/
theorem ends_iff {suffix : List UInt8} :
    Ends table suffix ↔ Accepted table suffix ∨ KnownOversize table suffix := by
  by_cases oversize : Oversize suffix
  · have rejected : ¬ Accepted table suffix := fun accepted => accepted.1.fits oversize
    simp [Ends, KnownOversize, oversize, rejected]
  · constructor
    · intro ends
      obtain ⟨known, many | ⟨consistent, kept⟩⟩ := ends
      · exact absurd many oversize
      · exact Or.inl ⟨⟨known, oversize, consistent⟩, kept⟩
    · intro decisive
      rcases decisive with ⟨candidate, kept⟩ | ⟨-, many⟩
      · exact ⟨candidate.known, Or.inr ⟨candidate.consistent, kept⟩⟩
      · exact absurd many oversize

theorem Delivers.accepted {suffix : List UInt8} (delivers : Delivers table suffix) :
    Accepted table suffix := by
  rcases ends_iff.mp delivers.ends with accepted | ⟨-, many⟩
  · exact accepted
  · exact absurd many delivers.1.fits

end Acceptance

section Transparency

variable {files : WaveFiles} {table : List WaveConfigStruct} {c : BaseRadioClient}

/-- The scan of a datagram raises nothing exactly when something ends it before every
suffix that would deliver. -/
theorem signals_nil_iff (loaded : Loaded files table c) {data : List UInt8} :
    signals files c data = [] ↔
      ∀ i, Delivers table (data.drop i) → ∃ j < i, Ends table (data.drop j) := by
  constructor
  · intro silent i delivers
    by_contra reached
    have raised : signals files c data = [⟨data.drop i, headWord (data.drop i)⟩] :=
      (signals_eq_singleton_iff loaded).mpr
        ⟨i, delivers, fun j below ends => reached ⟨j, below, ends⟩, rfl⟩
    rw [silent] at raised
    cases raised
  · intro cut
    rcases signals_cases loaded data with silent | ⟨signal, raised⟩
    · exact silent
    · obtain ⟨i, delivers, skips, -⟩ := (signals_eq_singleton_iff loaded).mp raised
      obtain ⟨j, below, ends⟩ := cut i delivers
      exact absurd ends (skips j below)

/-- Leading bytes at which nothing ends the scan are transparent. -/
theorem signals_append_of_skips (loaded : Loaded files table c) {header rest : List UInt8}
    (skips : ∀ i < header.length, ¬ Ends table ((header ++ rest).drop i)) :
    signals files c (header ++ rest) = signals files c rest := by
  have transparent : inbound table (header ++ rest) = inbound table rest :=
    scan_append_of_skips fun i below _ => judge_skip_iff.mpr (skips i below)
  rw [signals_eq loaded, signals_eq loaded, transparent]

/-- The suffix at the leftmost accepted index is raised where it delivers, unless a known
oversize index comes before it. -/
theorem signals_of_leftmost (loaded : Loaded files table c) {data : List UInt8} {i : Nat}
    (delivers : Delivers table (data.drop i))
    (leftmost : ∀ j < i, ¬ Accepted table (data.drop j))
    (bounded : ∀ j < i, ¬ KnownOversize table (data.drop j)) :
    signals files c data = [⟨data.drop i, headWord (data.drop i)⟩] := by
  refine (signals_eq_singleton_iff loaded).mpr ⟨i, delivers, fun j below ends => ?_, rfl⟩
  rcases ends_iff.mp ends with accepted | oversize
  · exact leftmost j below accepted
  · exact bounded j below oversize

/-- **Exactly when leading bytes are transparent.**  Bytes in front that hold no accepted
index leave the signals alone if and only if none of their indexes has a known DSRCmsgID in
front of more than 16383 bytes, or nothing behind them would be delivered anyway. -/
theorem signals_append_iff (loaded : Loaded files table c) (header rest : List UInt8)
    (noneAccepted : ∀ i < header.length, ¬ Accepted table ((header ++ rest).drop i)) :
    signals files c (header ++ rest) = signals files c rest ↔
      (∀ i < header.length, ¬ KnownOversize table ((header ++ rest).drop i)) ∨
        ∀ i, Delivers table (rest.drop i) → ∃ j < i, Ends table (rest.drop j) := by
  by_cases bounded : ∀ i < header.length, ¬ KnownOversize table ((header ++ rest).drop i)
  · have skips : ∀ i < header.length, ¬ Ends table ((header ++ rest).drop i) := by
      intro i below ends
      rcases ends_iff.mp ends with accepted | oversize
      · exact noneAccepted i below accepted
      · exact bounded i below oversize
    exact iff_of_true (signals_append_of_skips loaded skips) (Or.inl bounded)
  · -- the break at an oversize index of the header loses everything behind it
    have lost : signals files c (header ++ rest) = [] := by
      rw [signals_nil_iff loaded]
      intro i delivers
      have behind : header.length ≤ i := by
        by_contra inHeader
        exact noneAccepted i (by omega) delivers.accepted
      push Not at bounded
      obtain ⟨j, below, oversize⟩ := bounded
      exact ⟨j, by omega, ends_iff.mpr (Or.inr oversize)⟩
    rw [lost, eq_comm, signals_nil_iff loaded]
    simp [bounded]

/-- One byte that starts no DSRCmsgID in front of a BSM frame, over the shipped table. -/
theorem stray_byte_transparent_iff :
    signals shippedFiles shippedClient ([0xFF] ++ frame 20 [7]) =
        signals shippedFiles shippedClient (frame 20 [7]) ↔
      (∀ i < [(0xFF : UInt8)].length, ¬ KnownOversize waveJson (([0xFF] ++ frame 20 [7]).drop i)) ∨
        ∀ i, Delivers waveJson ((frame 20 [7]).drop i) →
          ∃ j < i, Ends waveJson ((frame 20 [7]).drop j) :=
  signals_append_iff shipped_loaded [0xFF] (frame 20 [7]) (by
    intro i below accepted
    have first : i = 0 := by simpa using below
    subst first
    exact absurd accepted.1.known (by decide))

/-- The longest BSM frame, of 16383 bytes. -/
def longestFrame : List UInt8 := frame 20 (List.replicate 16379 0)

/-- Two bytes that read as the BSM DSRCmsgID in front of the longest BSM frame: index 0 is
not accepted, the frame alone is raised, the frame behind them is not. -/
theorem longest_frame_lost_behind_id :
    Loaded shippedFiles waveJson shippedClient ∧
      (∀ i < [(0x00 : UInt8), 0x14].length,
        ¬ Accepted waveJson (([0x00, 0x14] ++ longestFrame).drop i)) ∧
      ending shippedFiles shippedClient ([0x00, 0x14] ++ longestFrame) ≠ .error .badAccess ∧
      signals shippedFiles shippedClient ([0x00, 0x14] ++ longestFrame) ≠
        signals shippedFiles shippedClient longestFrame := by
  have size : longestFrame.length = 16383 := by
    rw [longestFrame, frame_length, List.length_replicate]
    rfl
  have oversize : KnownOversize waveJson ([0x00, 0x14] ++ longestFrame) :=
    ⟨by decide, by simp [Oversize, size]⟩
  have ends : Ends waveJson (([0x00, 0x14] ++ longestFrame).drop 0) :=
    ends_iff.mpr (Or.inr oversize)
  have length : (List.replicate 16379 (0 : UInt8)).length = 16379 := List.length_replicate
  have delivered : signals shippedFiles shippedClient longestFrame = [⟨longestFrame, 20⟩] := by
    refine (signals_whole_iff shipped_loaded).mpr ⟨⟨?_, Or.inl (by decide)⟩, rfl⟩
    refine (candidate_frame_iff (by decide) (by decide) ?_ ?_).mpr ?_
    · exact List.length_pos_iff.mp (by omega)
    · omega
    · omega
  have lost : signals shippedFiles shippedClient ([0x00, 0x14] ++ longestFrame) = [] := by
    rw [signals_nil_iff shipped_loaded]
    intro i delivers
    cases i with
    | zero => exact absurd oversize.2 delivers.1.fits
    | succ i => exact ⟨0, Nat.succ_pos i, ends⟩
  refine ⟨shipped_loaded, ?_, ?_, ?_⟩
  · intro i below accepted
    have first : i = 0 ∨ i = 1 := by
      rw [List.length_cons, List.length_singleton] at below
      omega
    rcases first with rfl | rfl
    · exact accepted.1.fits oversize.2
    · exact absurd accepted.1.known (by decide)
  · rw [process_in_bounds_iff shipped_loaded]
    intro i candidate
    cases i with
    | zero => exact absurd oversize.2 candidate.1.fits
    | succ i => exact Or.inr ⟨0, Nat.succ_pos i, ends⟩
  · rw [lost, delivered]
    simp

end Transparency

end V2xRosDriver.Radio
