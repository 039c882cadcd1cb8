/-
# Radio.Scanner -- `process` is a suffix scan over the loaded table

On a client whose tables are loaded, `process` neither loads nor changes anything:
what it does with index `i` depends only on the suffix from `i` on.  `judge` is that
decision, `inbound` the leftmost-verdict scan over it, and `process_eq_inbound` says
that `process` computes `inbound`, signal by signal and fault by fault.

Everything the inbound results say about `process` goes through this one theorem.
-/
import V2xRosDriver.Radio.BaseRadioClient
import V2xRosDriver.Theory.SuffixScan

namespace V2xRosDriver.Radio

set_option autoImplicit false

open V2xRosDriver.Theory.Numerals
open V2xRosDriver.Theory.SuffixScan

/-! ## Loaded tables -/

/-- `c` holds exactly the entries of `table`.  A client reads its file again whenever
its vectors are empty, so an empty table counts as loaded only where that finds nothing. -/
structure Loaded (files : WaveFiles) (table : List WaveConfigStruct) (c : BaseRadioClient) :
    Prop where
  ids : c.waveCfgDsrcMsgIds = table.map (·.dsrcMsgId)
  psids : c.waveCfgPsids = table.map (·.psid)
  settled : table = [] → c.waveFilePath.isEmpty = false → (files c.waveFilePath).entries = []

section Loaded

variable {files : WaveFiles} {table : List WaveConfigStruct} {c : BaseRadioClient}

theorem exec_loadWaveConfigIds (path : String) :
    exec (loadWaveConfigIds files path) c =
      (.ok (), { c with
        waveCfgDsrcMsgIds := c.waveCfgDsrcMsgIds ++ (files path).entries.map (·.dsrcMsgId)
        waveCfgPsids := c.waveCfgPsids ++ (files path).entries.map (·.psid) }) := by
  unfold loadWaveConfigIds
  cases files path <;> simp [WaveFile.entries]

/-- Loading an accepted file into a client without tables loads its entries. -/
theorem loaded_of_load (found : files c.waveFilePath = .accepted table)
    (noIds : c.waveCfgDsrcMsgIds = []) (noPsids : c.waveCfgPsids = []) :
    Loaded files table (exec (loadWaveConfigIds files c.waveFilePath) c).2 := by
  rw [exec_loadWaveConfigIds, found]
  refine ⟨by simp [noIds, WaveFile.entries], by simp [noPsids, WaveFile.entries], ?_⟩
  intro empty _
  simp [found, WaveFile.entries, empty]

/-- The installed file, `package_share_directory + "/etc/wave.json"`, and no other. -/
def shippedFiles : WaveFiles := fun path =>
  if path = "share/v2x_ros_driver/etc/wave.json" then .accepted waveJson else .unreadable

/-- A client that has loaded the installed file. -/
def shippedClient : BaseRadioClient :=
  (exec (loadWaveConfigIds shippedFiles "share/v2x_ros_driver/etc/wave.json")
    { waveFilePath := "share/v2x_ros_driver/etc/wave.json" }).2

theorem shipped_loaded : Loaded shippedFiles waveJson shippedClient :=
  loaded_of_load (c := { waveFilePath := "share/v2x_ros_driver/etc/wave.json" }) rfl rfl rfl

/-- The log is not part of what is loaded. -/
theorem Loaded.log (loaded : Loaded files table c) (log : List MessageReceived) :
    Loaded files table { c with onMessageReceived := log } :=
  ⟨loaded.ids, loaded.psids, loaded.settled⟩

/-- Reading the file again on account of an empty table changes nothing. -/
theorem Loaded.reload (loaded : Loaded files table c) (empty : table = [])
    (path : c.waveFilePath.isEmpty = false) :
    exec (loadWaveConfigIds files c.waveFilePath) c = (.ok (), c) := by
  rw [exec_loadWaveConfigIds, loaded.settled empty path]
  simp

theorem Loaded.any_ids (loaded : Loaded files table c) (msgId : String) :
    c.waveCfgDsrcMsgIds.any (msgId == ·) = decide (msgId ∈ table.map (·.dsrcMsgId)) := by
  rw [loaded.ids, Bool.eq_iff_iff, decide_eq_true_eq, List.any_eq_true]
  simp

theorem exec_isValidMsgID (loaded : Loaded files table c) (msgId : String) :
    exec (isValidMsgID files msgId) c =
      (.ok (decide (msgId ∈ table.map (·.dsrcMsgId))), c) := by
  have lookup := loaded.any_ids msgId
  unfold isValidMsgID
  simp only [exec_bind, exec_get]
  by_cases unfilled : c.waveCfgDsrcMsgIds.isEmpty = true
  · have empty : table = [] := by simpa [loaded.ids] using unfilled
    by_cases noPath : c.waveFilePath.isEmpty = true
    · simp only [exec_bind, exec_get, exec_pure, if_pos unfilled, if_pos noPath]
      simp [empty]
    · have reloaded := loaded.reload empty (by simpa using noPath)
      simp only [exec_bind, exec_get, exec_pure, if_pos unfilled, if_neg noPath, reloaded, lookup]
  · simp only [exec_bind, exec_get, exec_pure, if_neg unfilled, lookup]

theorem exec_isPossiblePSID (loaded : Loaded files table c) (msgId : String) :
    exec (isPossiblePSID files msgId) c = (psidLoop msgId (table.map (·.psid)), c) := by
  have lookup : psidLoop msgId c.waveCfgPsids = psidLoop msgId (table.map (·.psid)) := by
    rw [loaded.psids]
  unfold isPossiblePSID
  simp only [exec_bind, exec_get]
  by_cases unfilled : c.waveCfgPsids.isEmpty = true
  · have empty : table = [] := by simpa [loaded.psids] using unfilled
    by_cases noPath : c.waveFilePath.isEmpty = true
    · simp only [exec_bind, exec_get, exec_pure, if_pos unfilled, if_pos noPath, empty]
      rfl
    · have reloaded := loaded.reload empty (by simpa using noPath)
      simp only [exec_bind, exec_get, exec_ofExcept, if_pos unfilled, if_neg noPath, reloaded,
        lookup]
  · simp only [exec_bind, exec_get, exec_ofExcept, if_neg unfilled, lookup]

end Loaded

/-! ## Suffixes

The scanner looks at index `i` only where at least four bytes are left. -/

/-- The DSRCmsgID a suffix starts with. -/
def headWord : List UInt8 → Nat
  | hi :: lo :: _ => word hi lo
  | _ => 0

/-- The length field agrees with the number of bytes behind it.  The form of the field,
two bytes or one, is read off the number of bytes in the whole suffix. -/
def sizeConsistent : List UInt8 → Bool
  | _ :: _ :: high :: low :: rest =>
      if 127 < rest.length + 4 then ((high &&& 0x7F).toNat <<< 8) ||| low.toNat == rest.length
      else high.toNat == rest.length + 1
  | _ => false

theorem elementAt_of_lt {v : List UInt8} {i : Nat} (inside : i < v.length) :
    elementAt v i = .ok v[i] := by
  simp [elementAt, List.getElem?_eq_getElem inside]

theorem elementAt_of_le {v : List UInt8} {i : Nat} (outside : v.length ≤ i) :
    elementAt v i = .error .badAccess := by
  simp [elementAt, List.getElem?_eq_none outside]

theorem elementAt_drop (v : List UInt8) (i k : Nat) :
    elementAt (v.drop i) k = elementAt v (i + k) := by
  simp [elementAt]

theorem wordAt_drop (v : List UInt8) (i k : Nat) : wordAt (v.drop i) k = wordAt v (i + k) := by
  simp only [wordAt, elementAt_drop, Nat.add_assoc]

/-- A word with both bytes in range is read; any other read is a bad access. -/
theorem wordAt_of_lt {v : List UInt8} {i : Nat} (inside : i + 1 < v.length) :
    wordAt v i = .ok (headWord (v.drop i)) := by
  have first : i < v.length := by omega
  rw [wordAt, elementAt_of_lt first, elementAt_of_lt inside, List.drop_eq_getElem_cons first,
    List.drop_eq_getElem_cons inside]
  rfl

theorem wordAt_of_le {v : List UInt8} {i : Nat} (outside : v.length ≤ i + 1) :
    wordAt v i = .error .badAccess := by
  by_cases first : i < v.length
  · rw [wordAt, elementAt_of_lt first, elementAt_of_le outside]
    rfl
  · rw [wordAt, elementAt_of_le (by omega)]
    rfl

/-- On a suffix of at least four bytes the size check reads in range and is `sizeConsistent`. -/
theorem isValidMsgSize_suffix {entry : List UInt8} {i : Nat} (inside : i + 4 ≤ entry.length) :
    isValidMsgSize (entry.drop i) i entry = .ok (sizeConsistent (entry.drop i)) := by
  obtain ⟨hi, lo, high, low, rest, shape⟩ :
      ∃ hi lo high low rest, entry.drop i = hi :: lo :: high :: low :: rest := by
    have size : 4 ≤ (entry.drop i).length := by rw [List.length_drop]; omega
    match entry.drop i, size with
    | hi :: lo :: high :: low :: rest, _ => exact ⟨hi, lo, high, low, rest, rfl⟩
  have behind (k : Nat) : entry.drop (i + k) = (hi :: lo :: high :: low :: rest).drop k := by
    rw [← shape, List.drop_drop]
  have longSlice : sliceFrom entry (i + longFrame) = .ok rest := by
    rw [sliceFrom, longFrame, if_pos inside, behind]
    rfl
  have shortSlice : sliceFrom entry (i + shortFrame) = .ok (low :: rest) := by
    rw [sliceFrom, shortFrame, if_pos (by omega), behind]
    rfl
  have third : elementAt (hi :: lo :: high :: low :: rest) 2 = .ok high := rfl
  have fourth : elementAt (hi :: lo :: high :: low :: rest) 3 = .ok low := rfl
  rw [shape]
  by_cases long : 127 < rest.length + 4
  · simp only [isValidMsgSize, sizeConsistent, List.length_cons, long, longSlice, third, fourth,
      if_true]
    rfl
  · simp only [isValidMsgSize, sizeConsistent, List.length_cons, long, shortSlice, third, if_false,
      if_pos (show rest.length + 4 < 128 ∧ 3 ≤ rest.length + 4 by omega)]
    rfl

/-- The look-ahead of the BSM-PSID heuristic reads the suffix and nothing before it. -/
theorem bsmMsgIdLoop_drop (entry : List UInt8) (i n j : Nat) :
    bsmMsgIdLoop (entry.drop i) n j = bsmMsgIdLoop entry n (i + j) := by
  induction n generalizing j with
  | zero => rfl
  | succ n ih => simp only [bsmMsgIdLoop, wordAt_drop, ih, Nat.add_assoc]

theorem bsmElementLoop_drop (entry : List UInt8) (i n j : Nat) :
    bsmElementLoop (entry.drop i) n j = bsmElementLoop entry n (i + j) := by
  induction n generalizing j with
  | zero => rfl
  | succ n ih => simp only [bsmElementLoop, wordAt_drop, bsmMsgIdLoop_drop, ih, Nat.add_assoc]

theorem isValidMsgAssumingBSMPSID_suffix (entry : List UInt8) (i : Nat) :
    isValidMsgAssumingBSMPSID i entry = isValidMsgAssumingBSMPSID 0 (entry.drop i) := by
  rw [isValidMsgAssumingBSMPSID, isValidMsgAssumingBSMPSID, bsmElementLoop_drop, Nat.add_zero]

/-! ## The verdict on one suffix -/

section Verdict

variable (table : List WaveConfigStruct)

/-- The suffix starts with a DSRCmsgID of the table. -/
def Known (suffix : List UInt8) : Prop :=
  toString (headWord suffix) ∈ table.map (·.dsrcMsgId)

instance (suffix : List UInt8) : Decidable (Known table suffix) :=
  inferInstanceAs (Decidable (_ ∈ _))

/-- More bytes than one length field can describe. -/
def Oversize (suffix : List UInt8) : Prop := 16383 < suffix.length

instance (suffix : List UInt8) : Decidable (Oversize suffix) :=
  inferInstanceAs (Decidable (_ < _))

/-- `isPossiblePSID` on the suffix's DSRCmsgID. -/
def possiblePsid (suffix : List UInt8) : Except Fault Bool :=
  psidLoop (toString (headWord suffix)) (table.map (·.psid))

/-- `isValidMsgAssumingBSMPSID` on the suffix. -/
def bsmPsid (suffix : List UInt8) : Except Fault Bool :=
  isValidMsgAssumingBSMPSID 0 suffix

/-- Whether a known, size-consistent suffix is a PSID header to be skipped. -/
def skippedAsPsid (suffix : List UInt8) : Except Fault Bool :=
  match possiblePsid table suffix with
  | .ok true => bsmPsid suffix
  | other => other

/-- The verdict on a known, size-consistent suffix once the PSID heuristic has answered. -/
def psidVerdict (suffix : List UInt8) : Except Fault Bool → Verdict MessageReceived Fault
  | .ok true => .skip
  | .ok false => .deliver ⟨suffix, headWord suffix⟩
  | .error fault => .fail fault

/-- What `process` does at an index, seen from the suffix that starts there. -/
def judge (suffix : List UInt8) : Verdict MessageReceived Fault :=
  if ¬ Known table suffix then .skip
  else if Oversize suffix then .stop
  else if sizeConsistent suffix = false then .skip
  else psidVerdict suffix (skippedAsPsid table suffix)

/-- The leftmost verdict over every suffix of at least four bytes. -/
def inbound (data : List UInt8) : Outcome MessageReceived Fault := scan 3 (judge table) data

end Verdict

/-- What an outcome of the scan does to a client. -/
def settle (c : BaseRadioClient) :
    Outcome MessageReceived Fault → Except Fault Unit × BaseRadioClient
  | .silent => (.ok (), c)
  | .delivered signal =>
      (.ok (), { c with onMessageReceived := c.onMessageReceived ++ [signal] })
  | .failed fault => (.error fault, c)

section Refinement

variable {files : WaveFiles} {table : List WaveConfigStruct} {c : BaseRadioClient}

theorem exec_shouldProcess (loaded : Loaded files table c) (entry : List UInt8) (i : Nat) :
    exec (shouldProcess files (headWord (entry.drop i)) i entry) c =
      ((skippedAsPsid table (entry.drop i)).map (!·), c) := by
  unfold shouldProcess skippedAsPsid possiblePsid
  simp only [exec_bind, exec_isPossiblePSID loaded]
  cases psid : psidLoop (toString (headWord (entry.drop i))) (table.map (·.psid)) with
  | error fault => rfl
  | ok possible =>
      cases possible with
      | false => rfl
      | true =>
          simp only [if_true, exec_bind, exec_ofExcept, isValidMsgAssumingBSMPSID_suffix entry i]
          cases ahead : bsmPsid (entry.drop i) with
          | error fault => rw [bsmPsid] at ahead; rw [ahead]; rfl
          | ok found => rw [bsmPsid] at ahead; rw [ahead]; rfl

/-- With `n` iterations left at index `i`, the loop settles the scan of the suffix at `i`. -/
theorem exec_processLoop (loaded : Loaded files table c) (entry : List UInt8) (n i : Nat)
    (left : n + i + 3 = entry.length) :
    exec (processLoop files entry n i) c = settle c (inbound table (entry.drop i)) := by
  induction n generalizing i with
  | zero =>
      have short : (entry.drop i).length ≤ 3 := by rw [List.length_drop]; omega
      rw [inbound, scan_short short]
      rfl
  | succ n ih =>
      have inside : i + 4 ≤ entry.length := by omega
      have next : exec (processLoop files entry n (i + 1)) c =
          settle c (inbound table (entry.drop (i + 1))) := ih (i + 1) (by omega)
      have inRange : i < entry.length := by omega
      have shape : entry.drop i = entry[i] :: entry.drop (i + 1) :=
        List.drop_eq_getElem_cons inRange
      have judged : inbound table (entry.drop i) =
          (judge table (entry.drop i)).conclude (inbound table (entry.drop (i + 1))) := by
        have long : 3 < (entry.drop (i + 1)).length + 1 := by rw [List.length_drop]; omega
        unfold inbound
        rw [shape]
        exact scan_of_judged long
      rw [judged, judge, processLoop]
      simp only [exec_bind, exec_ofExcept, wordAt_of_lt (show i + 1 < entry.length by omega),
        exec_isValidMsgID loaded, Bool.not_eq_true']
      by_cases known : Known table (entry.drop i)
      · have continues : ¬ entry.length ≤ i + shortFrame := by unfold shortFrame; omega
        have slice : sliceFrom entry i = .ok (entry.drop i) := by
          rw [sliceFrom, if_pos (by omega)]
        rw [if_neg (by simpa [Known] using known), if_neg continues, if_neg (not_not.mpr known)]
        simp only [exec_bind, exec_ofExcept, slice]
        by_cases oversize : Oversize (entry.drop i)
        · have stops : 16383 < (entry.drop i).length := oversize
          rw [if_pos stops, if_pos oversize]
          rfl
        · have goesOn : ¬ 16383 < (entry.drop i).length := oversize
          rw [if_neg goesOn, if_neg oversize]
          simp only [exec_bind, exec_ofExcept, isValidMsgSize_suffix inside]
          cases consistent : sizeConsistent (entry.drop i) with
          | false => simpa [Verdict.conclude] using next
          | true =>
              simp only [exec_bind, exec_shouldProcess loaded, Bool.true_eq_false, if_false]
              cases skippedAsPsid table (entry.drop i) with
              | error fault => rfl
              | ok skipped =>
                  cases skipped with
                  | false => rfl
                  | true => simpa [Except.map, psidVerdict, Verdict.conclude] using next
      · rw [if_pos (by simpa [Known] using known), if_pos known]
        exact next

/-- **`process` computes the leftmost verdict.**  On a loaded client it settles the scan of
the datagram and changes nothing else. -/
theorem process_eq_inbound (loaded : Loaded files table c) (data : List UInt8) :
    exec (process files data) c = settle c (inbound table data) := by
  unfold process
  by_cases short : data.isEmpty ∨ data.length < 3
  · have small : data.length ≤ 3 := by
      rcases short with empty | few
      · simp [List.isEmpty_iff.mp empty]
      · omega
    rw [if_pos short, inbound, scan_short small]
    rfl
  · rw [if_neg short]
    exact exec_processLoop loaded data _ 0 (by omega)

/-- How `process` ends, read off the scan. -/
theorem ending_eq (loaded : Loaded files table c) (data : List UInt8) :
    ending files c data =
      match inbound table data with
      | .failed fault => .error fault
      | _ => .ok () := by
  rw [ending, process_eq_inbound loaded]
  cases inbound table data <;> rfl

/-- The signals of one call, read off the scan. -/
theorem signals_eq (loaded : Loaded files table c) (data : List UInt8) :
    signals files c data =
      match inbound table data with
      | .delivered signal => [signal]
      | _ => [] := by
  rw [signals, after, process_eq_inbound (loaded.log [])]
  cases inbound table data <;> rfl

end Refinement

end V2xRosDriver.Radio
