/-
# Radio.WaveTables -- the two vectors of a client as one table

A client keeps what it loads of wave.json in two vectors, filled by explicit loads and by
the first look into empty vectors, and reads the psid at an index it found among the ids.
`Aligned` says that the vectors are the two columns of the objects loaded so far.  Every
call keeps it, whatever file it finds or misses (`Aligned.step`), and with it the answers of
the client are those of the table (`truthful_after`).
-/
import V2xRosDriver.Radio.Scanner

namespace V2xRosDriver.Radio

set_option autoImplicit false

/-- The vectors are the columns of `loaded`. -/
structure Aligned (loaded : List WaveConfigStruct) (c : BaseRadioClient) : Prop where
  ids : c.waveCfgDsrcMsgIds = loaded.map (·.dsrcMsgId)
  psids : c.waveCfgPsids = loaded.map (·.psid)

/-- What is loaded once a client has looked: with nothing loaded and a path set, the file there. -/
def lazily (files : WaveFiles) (path : String) (loaded : List WaveConfigStruct) :
    List WaveConfigStruct :=
  if loaded.isEmpty ∧ ¬ path.isEmpty then (files path).entries else loaded

/-- The client that has looked. -/
def lazyLoad (files : WaveFiles) (c : BaseRadioClient) : BaseRadioClient :=
  if c.waveCfgDsrcMsgIds.isEmpty ∧ ¬ c.waveFilePath.isEmpty then
    (exec (loadWaveConfigIds files c.waveFilePath) c).2
  else c

section Aligned

variable {files : WaveFiles} {loaded : List WaveConfigStruct} {c : BaseRadioClient}

theorem Loaded.aligned (held : Loaded files loaded c) : Aligned loaded c := ⟨held.ids, held.psids⟩

theorem Aligned.ids_isEmpty (aligned : Aligned loaded c) :
    c.waveCfgDsrcMsgIds.isEmpty = loaded.isEmpty := by
  rw [aligned.ids, List.isEmpty_map]

theorem Aligned.psids_isEmpty (aligned : Aligned loaded c) :
    c.waveCfgPsids.isEmpty = c.waveCfgDsrcMsgIds.isEmpty := by
  rw [aligned.ids_isEmpty, aligned.psids, List.isEmpty_map]

/-- A load appends the same objects to both columns. -/
theorem Aligned.load (aligned : Aligned loaded c) (files : WaveFiles) (path : String) :
    Aligned (loaded ++ (files path).entries) (exec (loadWaveConfigIds files path) c).2 := by
  rw [exec_loadWaveConfigIds]
  constructor
  · simp only [aligned.ids, List.map_append]
  · simp only [aligned.psids, List.map_append]

/-- Whoever has looked once finds nothing new when looking again. -/
theorem Aligned.lazyLoad (aligned : Aligned loaded c) (files : WaveFiles) :
    Loaded files (lazily files c.waveFilePath loaded) (lazyLoad files c) := by
  unfold Radio.lazyLoad lazily
  rw [aligned.ids_isEmpty]
  by_cases reads : loaded.isEmpty ∧ ¬ c.waveFilePath.isEmpty
  · rw [if_pos reads, if_pos reads]
    have empty := List.isEmpty_iff.mp reads.1
    have columns := aligned.load files c.waveFilePath
    rw [empty, List.nil_append] at columns
    refine ⟨columns.ids, columns.psids, fun none _ => ?_⟩
    rw [exec_loadWaveConfigIds]
    exact none
  · rw [if_neg reads, if_neg reads]
    refine ⟨aligned.ids, aligned.psids, fun empty named => absurd ⟨?_, ?_⟩ reads⟩
    · exact List.isEmpty_iff.mpr empty
    · rw [named]
      exact Bool.false_ne_true

theorem Aligned.isValidMsgID (aligned : Aligned loaded c) (msgId : String) :
    exec (isValidMsgID files msgId) c =
      (.ok (decide (msgId ∈ (lazily files c.waveFilePath loaded).map (·.dsrcMsgId))),
        Radio.lazyLoad files c) := by
  have looked := aligned.lazyLoad files
  by_cases reads : c.waveCfgDsrcMsgIds.isEmpty ∧ ¬ c.waveFilePath.isEmpty
  · have load : exec (loadWaveConfigIds files c.waveFilePath) c =
        (.ok (), Radio.lazyLoad files c) := by
      rw [Radio.lazyLoad, if_pos reads, exec_loadWaveConfigIds]
    unfold Radio.isValidMsgID
    simp only [exec_bind, exec_get, exec_pure, if_pos reads.1, if_neg reads.2, load,
      looked.any_ids]
  · have same : Radio.lazyLoad files c = c := if_neg reads
    rw [same] at looked ⊢
    exact exec_isValidMsgID looked msgId

theorem Aligned.isPossiblePSID (aligned : Aligned loaded c) (msgId : String) :
    exec (isPossiblePSID files msgId) c =
      (psidLoop msgId ((lazily files c.waveFilePath loaded).map (·.psid)),
        Radio.lazyLoad files c) := by
  have looked := aligned.lazyLoad files
  by_cases reads : c.waveCfgDsrcMsgIds.isEmpty ∧ ¬ c.waveFilePath.isEmpty
  · have load : exec (loadWaveConfigIds files c.waveFilePath) c =
        (.ok (), Radio.lazyLoad files c) := by
      rw [Radio.lazyLoad, if_pos reads, exec_loadWaveConfigIds]
    unfold Radio.isPossiblePSID
    simp only [exec_bind, exec_get, exec_ofExcept, aligned.psids_isEmpty, if_pos reads.1,
      if_neg reads.2, load, looked.psids]
  · have same : Radio.lazyLoad files c = c := if_neg reads
    rw [same] at looked ⊢
    exact exec_isPossiblePSID looked msgId

/-- The scanner looks with its first word, before anything else. -/
theorem Aligned.process (aligned : Aligned loaded c) {data : List UInt8} (long : 4 ≤ data.length) :
    exec (process files data) c = exec (process files data) (Radio.lazyLoad files c) := by
  obtain ⟨n, iterations⟩ : ∃ n, data.length - 3 = n + 1 := ⟨data.length - 4, by omega⟩
  have enough : ¬ (data.isEmpty ∨ data.length < 3) := by
    rw [List.isEmpty_iff_length_eq_zero]
    omega
  unfold Radio.process
  rw [if_neg enough, iterations, processLoop]
  simp only [exec_bind, exec_ofExcept, wordAt_of_lt (show 0 + 1 < data.length by omega),
    aligned.isValidMsgID, exec_isValidMsgID (aligned.lazyLoad files)]

/-- A payload too short for the scanner changes nothing. -/
theorem exec_process_short {data : List UInt8} (short : data.length < 4) :
    exec (process files data) c = (.ok (), c) := by
  have iterations : data.length - 3 = 0 := by omega
  unfold process
  rw [iterations]
  split <;> rfl

/-- Two aligned columns: the first index in one reads the same row in the other. -/
theorem psid_at_first_index (table : List WaveConfigStruct) (id : String) :
    (∀ i, (table.map (·.dsrcMsgId)).findIdx? (· == id) = some i →
        ∃ entry, table.find? (·.dsrcMsgId == id) = some entry ∧
          (table.map (·.psid))[i]? = some entry.psid) ∧
      ((table.map (·.dsrcMsgId)).findIdx? (· == id) = none →
        table.find? (·.dsrcMsgId == id) = none) := by
  induction table with
  | nil => simp
  | cons first rest ih =>
      by_cases here : first.dsrcMsgId = id
      · simp [List.findIdx?_cons, here]
      · obtain ⟨found, missing⟩ := ih
        simp only [List.map_cons, List.findIdx?_cons, List.find?_cons,
          beq_eq_false_iff_ne.mpr here]
        constructor
        · intro i same
          cases index : (rest.map (·.dsrcMsgId)).findIdx? (· == id) with
          | none => simp [index] at same
          | some k =>
              have next : k + 1 = i := by simpa [index] using same
              subst next
              simpa using found k index
        · intro none
          exact missing (by simpa using none)

/-- The psid of the first object with the id, or the empty string. -/
def firstPsid (loaded : List WaveConfigStruct) (dsrcMsgId : String) : String :=
  match loaded.find? (·.dsrcMsgId == dsrcMsgId) with
  | some entry => entry.psid
  | none => ""

/-- The lookup stays in range, and reads the row it found. -/
theorem Aligned.psidForDsrcMsgId (aligned : Aligned loaded c) (dsrcMsgId : String) :
    c.psidForDsrcMsgId dsrcMsgId = .ok (firstPsid loaded dsrcMsgId) := by
  obtain ⟨found, missing⟩ := psid_at_first_index loaded dsrcMsgId
  unfold BaseRadioClient.psidForDsrcMsgId firstPsid
  rw [aligned.ids, aligned.psids]
  cases index : (loaded.map (·.dsrcMsgId)).findIdx? (· == dsrcMsgId) with
  | none =>
      rw [missing index]
      rfl
  | some i =>
      obtain ⟨entry, first, psid⟩ := found i index
      rw [first]
      simp only [psid]
      rfl

end Aligned

/-! ## Calls in any order -/

/-- A call on a client, with the files there are when it is made. -/
inductive TableCall where
  | setWaveFilePath (path : String)
  | loadWaveConfigIds (files : WaveFiles) (fileName : String)
  | isValidMsgID (files : WaveFiles) (msgId : String)
  | isPossiblePSID (files : WaveFiles) (msgId : String)
  | psidForDsrcMsgId (dsrcMsgId : String)
  | process (files : WaveFiles) (data : List UInt8)

/-- A client, and the objects of the valid files loaded so far, in the order of loading. -/
structure TableRun where
  client : BaseRadioClient := {}
  loaded : List WaveConfigStruct := []

namespace TableRun

/-- The file a call would load. -/
def opens (s : TableRun) : TableCall → Option WaveFile
  | .setWaveFilePath _ | .psidForDsrcMsgId _ => none
  | .loadWaveConfigIds files fileName => some (files fileName)
  | .isValidMsgID files _ | .isPossiblePSID files _ | .process files _ =>
      some (files s.client.waveFilePath)

/-- One call, however it ends.  A call that looks into empty tables loads first, and `process`
looks as soon as there are four bytes. -/
def step (s : TableRun) : TableCall → TableRun
  | .setWaveFilePath path => { s with client := (exec (setWaveFilePath path) s.client).2 }
  | .loadWaveConfigIds files fileName =>
      { client := (exec (loadWaveConfigIds files fileName) s.client).2
        loaded := s.loaded ++ (files fileName).entries }
  | .isValidMsgID files msgId =>
      { client := (exec (isValidMsgID files msgId) s.client).2
        loaded := lazily files s.client.waveFilePath s.loaded }
  | .isPossiblePSID files msgId =>
      { client := (exec (isPossiblePSID files msgId) s.client).2
        loaded := lazily files s.client.waveFilePath s.loaded }
  | .psidForDsrcMsgId _ => s
  | .process files data =>
      { client := after files s.client data
        loaded := if 4 ≤ data.length then lazily files s.client.waveFilePath s.loaded
          else s.loaded }

/-- The client answers as its table would: the vectors go together, a file that is not valid
changes neither, an id is valid if an object loaded by the time of the answer has it, and the
lookup gives the psid of the first object with the id. -/
structure Truthful (s : TableRun) : Prop where
  sameLength : s.client.waveCfgDsrcMsgIds.length = s.client.waveCfgPsids.length
  sameObject : ∀ k : Nat,
    s.client.waveCfgDsrcMsgIds[k]? = s.loaded[k]?.map WaveConfigStruct.dsrcMsgId ∧
      s.client.waveCfgPsids[k]? = s.loaded[k]?.map WaveConfigStruct.psid
  rejected : ∀ call, (∀ entries, s.opens call ≠ some (.accepted entries)) →
    (s.step call).client.waveCfgDsrcMsgIds = s.client.waveCfgDsrcMsgIds ∧
      (s.step call).client.waveCfgPsids = s.client.waveCfgPsids
  valid : ∀ files msgId, (exec (isValidMsgID files msgId) s.client).1 =
    .ok (decide (∃ entry ∈ (s.step (.isValidMsgID files msgId)).loaded, entry.dsrcMsgId = msgId))
  psid : ∀ dsrcMsgId, s.client.psidForDsrcMsgId dsrcMsgId = .ok (firstPsid s.loaded dsrcMsgId)

section Step

variable {s : TableRun}

/-- The scanner leaves the tables as its first look leaves them. -/
theorem aligned_after {files : WaveFiles} (aligned : Aligned s.loaded s.client)
    {data : List UInt8} (long : 4 ≤ data.length) :
    Aligned (lazily files s.client.waveFilePath s.loaded) (Radio.after files s.client data) := by
  have looked := aligned.lazyLoad files
  rw [Radio.after, aligned.process long, process_eq_inbound looked]
  cases inbound (lazily files s.client.waveFilePath s.loaded) data with
  | silent | failed fault => exact looked.aligned
  | delivered signal => exact (looked.log _).aligned

/-- Every call keeps the columns together. -/
theorem aligned_step (aligned : Aligned s.loaded s.client) (call : TableCall) :
    Aligned (s.step call).loaded (s.step call).client := by
  cases call with
  | setWaveFilePath path => exact ⟨aligned.ids, aligned.psids⟩
  | loadWaveConfigIds files fileName => exact aligned.load files fileName
  | isValidMsgID files msgId =>
      simp only [step, aligned.isValidMsgID]
      exact (aligned.lazyLoad files).aligned
  | isPossiblePSID files msgId =>
      simp only [step, aligned.isPossiblePSID]
      exact (aligned.lazyLoad files).aligned
  | psidForDsrcMsgId dsrcMsgId => exact aligned
  | process files data =>
      simp only [step]
      by_cases long : 4 ≤ data.length
      · rw [if_pos long]
        exact aligned_after aligned long
      · rw [if_neg long, Radio.after, exec_process_short (Nat.lt_of_not_le long)]
        exact aligned

theorem aligned_run (aligned : Aligned s.loaded s.client) (calls : List TableCall) :
    Aligned (calls.foldl step s).loaded (calls.foldl step s).client := by
  induction calls generalizing s with
  | nil => exact aligned
  | cons call rest ih => exact ih (aligned_step aligned call)

/-- A file that is not valid adds no object. -/
theorem loaded_of_rejected {call : TableCall}
    (rejected : ∀ entries, s.opens call ≠ some (.accepted entries)) :
    (s.step call).loaded = s.loaded := by
  have none {file : WaveFile} (opened : s.opens call = some file) : file.entries = [] := by
    cases file with
    | accepted entries => exact absurd opened (rejected entries)
    | _ => rfl
  have looked {files : WaveFiles} (opened : s.opens call = some (files s.client.waveFilePath)) :
      lazily files s.client.waveFilePath s.loaded = s.loaded := by
    unfold lazily
    split
    · rename_i reads
      rw [none opened, List.isEmpty_iff.mp reads.1]
    · rfl
  cases call with
  | setWaveFilePath path | psidForDsrcMsgId dsrcMsgId => rfl
  | loadWaveConfigIds files fileName =>
      show s.loaded ++ (files fileName).entries = s.loaded
      rw [none rfl, List.append_nil]
  | isValidMsgID files msgId | isPossiblePSID files msgId => exact looked rfl
  | process files data =>
      simp only [step]
      split
      · exact looked rfl
      · rfl

theorem truthful_of_aligned (aligned : Aligned s.loaded s.client) : Truthful s where
  sameLength := by rw [aligned.ids, aligned.psids, List.length_map, List.length_map]
  sameObject k := by
    rw [aligned.ids, aligned.psids]
    exact ⟨List.getElem?_map, List.getElem?_map⟩
  rejected call refused := by
    have next := aligned_step aligned call
    rw [loaded_of_rejected refused] at next
    exact ⟨next.ids.trans aligned.ids.symm, next.psids.trans aligned.psids.symm⟩
  valid files msgId := by
    rw [aligned.isValidMsgID]
    simp [step, eq_comm]
  psid := aligned.psidForDsrcMsgId

end Step

/-- **The vectors are one table.**  Whatever calls are made on a new client, in whatever order and
whatever files they find, it answers as the table of the objects loaded so far. -/
theorem truthful_after (calls : List TableCall) : Truthful (calls.foldl step {}) :=
  truthful_of_aligned (aligned_run ⟨rfl, rfl⟩ calls)

end TableRun

end V2xRosDriver.Radio
