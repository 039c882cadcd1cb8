/-
# Radio.Scanning -- told in the middle of a datagram

The owner of a client tells it of its file from a thread of its own, and a scan may be under way
then, or several, one for each connection that calls back.  A scan that has found nothing so far
finds the table from its next index on.  Since `process` judges suffixes, that is as if the
datagram had begun there: the receiver has missed what had gone by.

`Scan` keeps how much that is.  A scan is heard when it is over (`Represents.scanned`), so that
scans of one client may overlap: what each of them will deliver is settled from the moment the
client is told, and neither the others' signals nor their looks into the file change it (`due`).
`Listens` puts a client, what it has heard and its scans together, with a rule for each thing
that happens to them.
-/
import V2xRosDriver.Radio.InFlight

namespace V2xRosDriver.Radio

set_option autoImplicit false

open V2xRosDriver.Theory.Transition

/-! ## Scans -/

/-- The index a call of `process` has come to. -/
def ProcessPc.index : ProcessPc → Nat
  | .loop index _ | .known index _ _ => index
  | .raise _ _ => 0

/-- A call of `process` under way, the connection its datagram came from, and how much of it had
gone by when the client was told of its file. -/
structure Scan where
  source : Nat
  data : List UInt8
  pc : ProcessPc
  missed : Nat := 0
  deriving DecidableEq, Repr

namespace Scan

/-- `process` begins, if it does anything with the datagram. -/
def begin? (source : Nat) (data : List UInt8) : Option Scan :=
  (ProcessPc.start data).map fun pc => { source := source, data := data, pc := pc }

theorem of_begin {source : Nat} {data : List UInt8} {scan : Scan}
    (begins : begin? source data = some scan) :
    scan.source = source ∧ scan.data = data ∧ scan.missed = 0 := by
  obtain ⟨pc, -, rfl⟩ := Option.map_eq_some_iff.mp begins
  exact ⟨rfl, rfl, rfl⟩

/-- One step of `process`, and what is left of the scan. -/
def step (files : WaveFiles) (scan : Scan) (c : BaseRadioClient) :
    Except Fault (Option Scan) × BaseRadioClient :=
  let stepped := exec (processStep files scan.data scan.pc) c
  (stepped.1.map fun progress => progress.pc?.map fun pc => { scan with pc := pc }, stepped.2)

/-- What is left of the scan once it has come back or thrown. -/
def onward : Except Fault (Option Scan) → Option Scan
  | .ok scan => scan
  | .error _ => none

/-- The client is told of its file, for the first time or again. -/
def tell (again : Bool) (scan : Scan) : Scan :=
  if again then scan else { scan with missed := scan.pc.index }

/-- What the receiver has heard once the scan is over. -/
def hearing (scan : Scan) : Hearing := .datagram scan.source scan.data scan.missed

end Scan

/-! ## What a scan will deliver over a table -/

section Due

variable {files : WaveFiles} {data : List UInt8} {pc next : ProcessPc} {c d after : BaseRadioClient}
  {table loaded other : List WaveConfigStruct}

/-- A client that holds a table and knows no file. -/
def holding (table : List WaveConfigStruct) : BaseRadioClient :=
  { waveCfgDsrcMsgIds := table.map (·.dsrcMsgId), waveCfgPsids := table.map (·.psid) }

theorem aligned_holding (table : List WaveConfigStruct) : Aligned table (holding table) :=
  ⟨rfl, rfl⟩

theorem loaded_holding (files : WaveFiles) (table : List WaveConfigStruct) :
    Loaded files table (holding table) :=
  ⟨rfl, rfl, fun _ named => by cases named⟩

/-- It finds nothing when it looks. -/
theorem looked_holding (looked : Looked files (holding table) d) : d = holding table := by
  rcases looked with rfl | rfl
  · rfl
  · exact if_neg fun reads => reads.2 rfl

theorem lazily_holding (files : WaveFiles) (table : List WaveConfigStruct) :
    lazily files (holding table).waveFilePath table = table :=
  if_neg fun reads => reads.2 rfl

/-- Where a step of `process` leads depends on the table alone that the client finds. -/
theorem Aligned.same_outcome (one : Aligned loaded c) (two : Aligned other d)
    (same : lazily files c.waveFilePath loaded = lazily files d.waveFilePath other)
    (data : List UInt8) (pc : ProcessPc) :
    (exec (processStep files data pc) c).1 = (exec (processStep files data pc) d).1 := by
  cases pc with
  | loop i n =>
      cases n with
      | zero => rfl
      | succ n =>
          simp only [processStep, exec_bind, exec_ofExcept]
          cases wordAt data i with
          | error fault => rfl
          | ok msgId =>
              simp only [one.isValidMsgID, two.isValidMsgID, same]
              split <;> rfl
  | known i n msgId =>
      simp only [processStep]
      split
      · rfl
      · simp only [exec_bind, exec_ofExcept]
        cases sliceFrom data i with
        | error fault => rfl
        | ok msgVec =>
            simp only
            split
            · rfl
            · simp only [exec_bind, exec_ofExcept]
              cases isValidMsgSize msgVec i data with
              | error fault => rfl
              | ok consistent =>
                  cases consistent with
                  | false => rfl
                  | true =>
                      simp only [Bool.not_true, Bool.false_eq_true, if_false, shouldProcess,
                        exec_bind, one.isPossiblePSID, two.isPossiblePSID, same]
                      cases psidLoop (toString msgId)
                          ((lazily files d.waveFilePath other).map (·.psid)) with
                      | error fault => rfl
                      | ok possible =>
                          cases possible with
                          | false => rfl
                          | true =>
                              simp only [if_true, exec_bind, exec_ofExcept]
                              cases isValidMsgAssumingBSMPSID i data with
                              | error fault => rfl
                              | ok found => cases found <;> rfl
  | raise message id => rfl

/-- What a call that stands at a point will deliver over a table. -/
def due (files : WaveFiles) (table : List WaveConfigStruct) (data : List UInt8) (pc : ProcessPc) :
    List MessageReceived :=
  (exec (remaining files data pc) (holding table)).2.onMessageReceived

/-- At the head of the loop: what the rest of the datagram delivers. -/
theorem due_loop {i n : Nat} (left : n + i + 3 = data.length) :
    due files table data (.loop i n) = delivered table (data.drop i) := by
  rw [due, remaining, exec_processLoop (loaded_holding files table) data n i left, delivered]
  cases inbound table (data.drop i) <;> rfl

/-- The step of a client that finds the table, made by one that holds it. -/
theorem stepped_holding (aligned : Aligned loaded c)
    (finds : lazily files c.waveFilePath loaded = table)
    {result : Except Fault (Progress ProcessPc Unit)}
    (ran : exec (processStep files data pc) c = (result, after)) :
    exec (processStep files data pc) (holding table) =
      (result, { holding table with onMessageReceived := pc.raises }) := by
  have result_ : (exec (processStep files data pc) c).1 =
      (exec (processStep files data pc) (holding table)).1 :=
    aligned.same_outcome (aligned_holding table)
      (finds.trans (lazily_holding files table).symm) data pc
  rw [ran] at result_
  obtain ⟨looked, from_, client⟩ :=
    (@Aligned.stepped files data _ table (aligned_holding table) pc).client
  obtain rfl := looked_holding from_
  exact Prod.ext result_.symm client

/-- A step that goes on raises nothing and leaves what is due. -/
theorem due_goes (aligned : Aligned loaded c) (finds : lazily files c.waveFilePath loaded = table)
    (ran : exec (processStep files data pc) c = (.ok (.goes next), after)) :
    pc.raises = [] ∧ due files table data next = due files table data pc := by
  have quiet := ((@Aligned.stepped files data c loaded aligned pc).goes next (by rw [ran])).2
  have held := stepped_holding aligned finds ran
  rw [quiet] at held
  refine ⟨quiet, ?_⟩
  rw [due, due, exec_remaining pc, held]
  rfl

/-- The last step raises what is due. -/
theorem due_stops (aligned : Aligned loaded c) (finds : lazily files c.waveFilePath loaded = table)
    {result : Except Fault (Progress ProcessPc Unit)}
    (ran : exec (processStep files data pc) c = (result, after))
    (stops : ∀ next, result ≠ .ok (.goes next)) : due files table data pc = pc.raises := by
  rw [due, exec_remaining pc, stepped_holding aligned finds ran]
  rcases result with fault | ⟨next | done⟩
  · rfl
  · exact absurd rfl (stops next)
  · rfl

end Due

/-! ## Clients that scan -/

section Follows

variable {files : WaveFiles} {path : String} {r : Receiver} {c d after : BaseRadioClient}
  {told : Bool} {scan : Scan}

/-- A client that was told will deliver what is due of the bytes it did not miss; one that was not
looks at one word after the other and knows none. -/
structure Scan.Follows (files : WaveFiles) (path : String) (told : Bool) (scan : Scan) : Prop where
  whole : told = true → due files (tableAt files path) scan.data scan.pc =
    delivered (tableAt files path) (scan.data.drop scan.missed)
  early : told = false → scan.missed = 0 ∧
    ∃ i n, scan.pc = .loop i n ∧ n + i + 3 = scan.data.length

theorem Scan.follows_begin {source : Nat} {data : List UInt8}
    (begins : Scan.begin? source data = some scan) (told : Bool) :
    scan.Follows files path told := by
  rw [begin?, ProcessPc.start] at begins
  split at begins
  · cases begins
  · rename_i long
    cases begins
    have left : data.length - 3 + 0 + 3 = data.length := by omega
    exact ⟨fun _ => due_loop left, fun _ => ⟨rfl, _, _, rfl, left⟩⟩

/-- The client is told while it scans. -/
theorem Scan.Follows.tell (follows : scan.Follows files path told) :
    (scan.tell told).Follows files path true := by
  cases told with
  | true => exact ⟨follows.whole, fun never => by cases never⟩
  | false =>
      obtain ⟨-, i, n, at_, left⟩ := follows.early rfl
      refine ⟨fun _ => ?_, fun never => by cases never⟩
      simp only [Scan.tell, Bool.false_eq_true, if_false, at_, ProcessPc.index]
      exact due_loop left

/-- A client that has looked into its file stands for the same receiver. -/
theorem Represents.looked (represents : Represents files path r c) (looked : Looked files c d) :
    Represents files path r d := by
  rcases looked with rfl | rfl
  · exact represents
  · obtain ⟨loaded, aligned, looks⟩ := represents.table
    have file := represents.file
    refine ⟨(lazyLoad_onMessageReceived files c).trans represents.raised,
      (lazyLoad_waveFilePath files c).trans file, _, (aligned.lazyLoad files).aligned, ?_⟩
    cases told : r.told with
    | true =>
        simp only [told, if_true] at looks file ⊢
        rw [file, lazily_lazily, looks]
    | false =>
        simp only [told, Bool.false_eq_true, if_false] at looks file ⊢
        rw [file, looks]
        rfl

/-- The table the client finds when it looks. -/
theorem Represents.finds (represents : Represents files path r c) :
    ∃ loaded, Aligned loaded c ∧
      lazily files c.waveFilePath loaded = if r.told then tableAt files path else [] := by
  obtain ⟨loaded, aligned, looks⟩ := represents.table
  have file := represents.file
  refine ⟨loaded, aligned, ?_⟩
  cases told : r.told with
  | true =>
      simp only [told, if_true] at looks file ⊢
      rw [file, looks]
  | false =>
      simp only [told, Bool.false_eq_true, if_false] at looks file ⊢
      rw [file, looks]
      rfl

/-- A client that raises what a datagram delivers has heard it. -/
theorem Represents.heard (represents : Represents files path r c) (source : Nat)
    {data : List UInt8} {missed : Nat} {raised : List MessageReceived}
    (whole : r.told = true → raised = delivered (tableAt files path) (data.drop missed))
    (early : r.told = false → raised = []) :
    Represents files path (r.hear (tableAt files path) (.datagram source data missed))
      { c with onMessageReceived := c.onMessageReceived ++ raised } := by
  obtain ⟨log, file, loaded, aligned, looks⟩ := represents
  refine ⟨?_, by rw [Receiver.hear_datagram_told]; exact file, loaded,
    ⟨aligned.ids, aligned.psids⟩, by rw [Receiver.hear_datagram_told]; exact looks⟩
  cases told : r.told with
  | true => simp only [Receiver.hear, told, if_true, log, whole told]
  | false =>
      simp only [Receiver.hear, told, Bool.false_eq_true, if_false, early told, log,
        List.append_nil]

/-- A client that knows nothing finds nothing at an index, and goes on with the next. -/
theorem loop_of_unknown {loaded : List WaveConfigStruct} (aligned : Aligned loaded c)
    (finds : lazily files c.waveFilePath loaded = []) {data : List UInt8} {i n : Nat}
    {next : ProcessPc}
    (ran : exec (processStep files data (.loop i n)) c = (.ok (.goes next), after)) :
    ∃ m, n = m + 1 ∧ next = .loop (i + 1) m := by
  cases n with
  | zero => cases ran
  | succ m =>
      simp only [processStep, exec_bind, exec_ofExcept] at ran
      cases word : wordAt data i with
      | error fault =>
          rw [word] at ran
          cases ran
      | ok msgId =>
          rw [word] at ran
          simp only [aligned.isValidMsgID, finds, List.map_nil, List.not_mem_nil, decide_false,
            Bool.not_false, if_true] at ran
          cases ran
          exact ⟨m, rfl, rfl⟩

theorem Scan.Follows.goes {loaded : List WaveConfigStruct} (aligned : Aligned loaded c)
    (finds : lazily files c.waveFilePath loaded = if told then tableAt files path else [])
    (follows : scan.Follows files path told) {next : ProcessPc}
    (ran : exec (processStep files scan.data scan.pc) c = (.ok (.goes next), after)) :
    ({ scan with pc := next } : Scan).Follows files path told where
  whole now := by
    rw [now, if_pos rfl] at finds
    exact (due_goes aligned finds ran).2.trans (follows.whole now)
  early never := by
    rw [never, if_neg Bool.false_ne_true] at finds
    obtain ⟨missed, i, n, at_, left⟩ := follows.early never
    rw [at_] at ran
    obtain ⟨m, rfl, rfl⟩ := loop_of_unknown aligned finds ran
    exact ⟨missed, i + 1, m, rfl, by simp only; omega⟩

/-- A scan that goes on is the same but for the point it has come to. -/
theorem Scan.onward_of_step {result : Except Fault (Option Scan)}
    (ran : scan.step files c = (result, after)) {next : Scan}
    (goes : Scan.onward result = some next) :
    ∃ pc, exec (processStep files scan.data scan.pc) c = (.ok (.goes pc), after) ∧
      next = { scan with pc := pc } := by
  rcases stepped : exec (processStep files scan.data scan.pc) c with ⟨fault | ⟨pc | done⟩, now⟩ <;>
    simp only [Scan.step, stepped, Prod.mk.injEq] at ran <;> obtain ⟨rfl, rfl⟩ := ran <;> cases goes
  exact ⟨pc, rfl, rfl⟩

/-- **A scan is heard when it is over.**  A step that goes on leaves the client standing for the
same receiver; the last one, however it ends, makes it one that has heard the datagram. -/
theorem Represents.scanned (represents : Represents files path r c)
    (follows : scan.Follows files path r.told) {result : Except Fault (Option Scan)}
    (ran : scan.step files c = (result, after)) :
    (∀ next, Scan.onward result = some next →
      Represents files path r after ∧ next.Follows files path r.told) ∧
    (Scan.onward result = none →
      Represents files path (r.hear (tableAt files path) scan.hearing) after) := by
  obtain ⟨loaded, aligned, finds⟩ := represents.finds
  obtain ⟨looked, from_, client⟩ :=
    (@Aligned.stepped files scan.data c loaded aligned scan.pc).client
  have standing := represents.looked from_
  rw [← from_.onMessageReceived] at client
  constructor
  · intro next goes
    obtain ⟨pc, stepped, rfl⟩ := Scan.onward_of_step ran goes
    have quiet : scan.pc.raises = [] := (due_goes aligned rfl stepped).1
    rw [stepped, quiet, List.append_nil] at client
    have same : after = looked := client
    exact ⟨same ▸ standing, follows.goes aligned finds stepped⟩
  · intro ends
    rcases stepped : exec (processStep files scan.data scan.pc) c with ⟨outcome, now⟩
    simp only [Scan.step, stepped, Prod.mk.injEq] at ran client
    obtain ⟨rfl, rfl⟩ := ran
    have stops : ∀ pc, outcome ≠ .ok (.goes pc) := by
      rintro pc rfl
      cases ends
    rw [client]
    refine standing.heard scan.source (fun told => ?_) fun untold => ?_
    · rw [told, if_pos rfl] at finds
      rw [← due_stops aligned finds stepped stops, follows.whole told]
    · obtain ⟨-, i, n, at_, -⟩ := follows.early untold
      rw [at_]
      rfl

end Follows

/-! ## A client, what it has heard, and its scans -/

/-- The client stands for the receiver that has heard all this, each of its scans, one from each
connection, follows, and of no connection has more than one datagram been heard in part. -/
structure Listens (files : WaveFiles) (path : String) (heard : List Hearing)
    (underWay : Scan → Prop) (c : BaseRadioClient) : Prop where
  represents : Represents files path (.listen (tableAt files path) heard) c
  follows : ∀ scan, underWay scan → scan.Follows files path (decide (.told ∈ heard))
  apart : ∀ scan other, underWay scan → underWay other → scan.source = other.source →
    scan = other
  once : (heard.filterMap Hearing.inPart?).Nodup
  fresh : ∀ scan, underWay scan → scan.missed ≠ 0 →
    scan.source ∉ heard.filterMap Hearing.inPart?
  whole : .told ∉ heard → heard.filterMap Hearing.inPart? = []

section Listens

variable {files : WaveFiles} {path : String} {heard : List Hearing} {underWay now : Scan → Prop}
  {c d : BaseRadioClient} {scan : Scan}

theorem listens_start (files : WaveFiles) (path : String) :
    Listens files path [] (fun _ => False) {} where
  represents := represents_start files path
  follows _ never := never.elim
  apart _ _ never := never.elim
  once := List.nodup_nil
  fresh _ never := never.elim
  whole _ := rfl

theorem Listens.quiet (listens : Listens files path heard underWay c) (quiet : Quiet c d) :
    Listens files path heard underWay d :=
  { listens with represents := quiet.represents listens.represents }

/-- Of the scans under way only some are looked at. -/
theorem Listens.fewer (listens : Listens files path heard underWay c)
    (fewer : ∀ scan, now scan → underWay scan) : Listens files path heard now c :=
  { listens with
    follows := fun scan is => listens.follows scan (fewer scan is)
    apart := fun one two isOne isTwo => listens.apart one two (fewer one isOne) (fewer two isTwo)
    fresh := fun scan is => listens.fresh scan (fewer scan is) }

@[simp] theorem source_tell (again : Bool) (scan : Scan) :
    (scan.tell again).source = scan.source := by
  rw [Scan.tell]
  split <;> rfl

/-- The client is told of its file, with all its scans. -/
theorem Listens.tell (listens : Listens files path heard underWay c)
    (told : ∀ scan, now scan → ∃ before, underWay before ∧ scan = before.tell (.told ∈ heard)) :
    Listens files path (heard ++ [.told]) now (exec (setWaveFilePath path) c).2 where
  represents := by
    rw [Receiver.listen_append]
    exact listens.represents.told
  follows scan is := by
    obtain ⟨before, was, rfl⟩ := told scan is
    simpa using (listens.follows before was).tell
  apart one two isOne isTwo same := by
    obtain ⟨before, was, rfl⟩ := told one isOne
    obtain ⟨other, wasToo, rfl⟩ := told two isTwo
    rw [source_tell, source_tell] at same
    rw [listens.apart before other was wasToo same]
  once := by
    rw [Hearing.filterMap_inPart_told]
    exact listens.once
  fresh scan is missed := by
    obtain ⟨before, was, rfl⟩ := told scan is
    rw [Hearing.filterMap_inPart_told, source_tell]
    by_cases again : .told ∈ heard
    · rw [Scan.tell, if_pos (decide_eq_true again)] at missed
      exact listens.fresh before was missed
    · rw [listens.whole again]
      exact List.not_mem_nil
  whole never := absurd (List.mem_append_right heard (List.mem_singleton_self _)) never

/-- A datagram that was heard in part was not the first one of its connection. -/
theorem Listens.hear (listens : Listens files path heard underWay c) {source missed : Nat}
    {data : List UInt8}
    (represents : Represents files path
      (.listen (tableAt files path) (heard ++ [.datagram source data missed])) d)
    (early : .told ∉ heard → missed = 0)
    (part : missed ≠ 0 → source ∉ heard.filterMap Hearing.inPart?)
    (others : ∀ scan, now scan → underWay scan ∧ (missed ≠ 0 → scan.source ≠ source)) :
    Listens files path (heard ++ [.datagram source data missed]) now d where
  represents := represents
  follows scan is := by simpa using listens.follows scan (others scan is).1
  apart one two isOne isTwo := listens.apart one two (others one isOne).1 (others two isTwo).1
  once := by
    rw [List.filterMap_append, List.nodup_append]
    refine ⟨listens.once, by simp [List.filterMap_cons]; split <;> simp, ?_⟩
    intro one among two last
    by_cases whole : missed = 0
    · simp [Hearing.inPart?, whole] at last
    · simp only [List.filterMap_cons, Hearing.inPart?, whole, if_false, List.filterMap_nil,
        List.mem_singleton] at last
      rintro rfl
      exact part whole (last ▸ among)
  fresh scan is missedToo := by
    obtain ⟨was, other⟩ := others scan is
    rw [List.filterMap_append, List.mem_append, not_or]
    refine ⟨listens.fresh scan was missedToo, fun last => ?_⟩
    by_cases whole : missed = 0
    · simp [Hearing.inPart?, whole] at last
    · simp only [List.filterMap_cons, Hearing.inPart?, whole, if_false, List.filterMap_nil,
        List.mem_singleton] at last
      exact other whole last
  whole never := by
    have before : .told ∉ heard := fun told => never (List.mem_append_left _ told)
    rw [List.filterMap_append, listens.whole before]
    simp [Hearing.inPart?, early before]

/-- A datagram arrives on a connection without a scan, and its scan begins. -/
theorem Listens.begins (listens : Listens files path heard underWay c) {source : Nat}
    {data : List UInt8} (begins : Scan.begin? source data = some scan)
    (free : ∀ other, underWay other → other.source ≠ source)
    (is : ∀ other, now other → underWay other ∨ other = scan) :
    Listens files path heard now c := by
  obtain ⟨from_, -, whole⟩ := Scan.of_begin begins
  refine { listens with follows := ?_, apart := ?_, fresh := ?_ }
  · intro other isOther
    rcases is other isOther with was | rfl
    · exact listens.follows other was
    · exact Scan.follows_begin begins _
  · intro one two isOne isTwo same
    rcases is one isOne with wasOne | rfl
    · rcases is two isTwo with wasTwo | rfl
      · exact listens.apart one two wasOne wasTwo same
      · exact absurd (same.trans from_) (free one wasOne)
    · rcases is two isTwo with wasTwo | rfl
      · exact absurd (same.symm.trans from_) (free two wasTwo)
      · rfl
  · intro other isOther missed
    rcases is other isOther with was | rfl
    · exact listens.fresh other was missed
    · exact absurd whole missed

/-- A datagram too short to scan is over at once. -/
theorem Listens.passes (listens : Listens files path heard underWay c) {source : Nat}
    {data : List UInt8} (passes : Scan.begin? source data = none) :
    Listens files path (heard ++ [.datagram source data 0]) underWay c := by
  have short : data.length < 4 := by
    rw [Scan.begin?, ProcessPc.start, Option.map_eq_none_iff, ite_eq_left_iff] at passes
    by_contra long
    have enough : ¬ (data.isEmpty ∨ data.length < 3) := by
      rw [List.isEmpty_iff_length_eq_zero]
      omega
    cases passes enough
  have silent : Represents files path
      ((Receiver.listen (tableAt files path) heard).hear (tableAt files path)
        (.datagram source data 0)) { c with onMessageReceived := c.onMessageReceived ++ [] } :=
    listens.represents.heard source (fun _ => (delivered_short short).symm) fun _ => rfl
  refine listens.hear ?_ (fun _ => rfl) (fun some_ => absurd rfl some_)
    fun scan is => ⟨is, fun some_ => absurd rfl some_⟩
  rw [Receiver.listen_append]
  simpa using silent

/-- A scan goes on, -/
theorem Listens.goes (listens : Listens files path heard underWay c) (was : underWay scan)
    {result : Except Fault (Option Scan)} (ran : scan.step files c = (result, d)) {next : Scan}
    (goes : Scan.onward result = some next)
    (is : ∀ other, now other → underWay other ∧ other.source ≠ scan.source ∨ other = next) :
    Listens files path heard now d := by
  have follows := listens.follows scan was
  rw [← Receiver.listen_told (tableAt files path)] at follows
  obtain ⟨represents, onward⟩ := (listens.represents.scanned follows ran).1 next goes
  rw [Receiver.listen_told] at onward
  obtain ⟨from_, missed⟩ : next.source = scan.source ∧ next.missed = scan.missed := by
    obtain ⟨pc, -, rfl⟩ := Scan.onward_of_step ran goes
    exact ⟨rfl, rfl⟩
  refine ⟨represents, ?_, ?_, listens.once, ?_, listens.whole⟩
  · intro other isOther
    rcases is other isOther with ⟨wasOther, -⟩ | rfl
    · exact listens.follows other wasOther
    · exact onward
  · intro one two isOne isTwo same
    rcases is one isOne with ⟨wasOne, apartOne⟩ | rfl
    · rcases is two isTwo with ⟨wasTwo, -⟩ | rfl
      · exact listens.apart one two wasOne wasTwo same
      · exact absurd (same.trans from_) apartOne
    · rcases is two isTwo with ⟨-, apartTwo⟩ | rfl
      · exact absurd (same.symm.trans from_) apartTwo
      · rfl
  · intro other isOther some_
    rcases is other isOther with ⟨wasOther, -⟩ | rfl
    · exact listens.fresh other wasOther some_
    · rw [from_]
      exact listens.fresh scan was (missed ▸ some_)

/-- and is over at last. -/
theorem Listens.ends (listens : Listens files path heard underWay c) (was : underWay scan)
    {result : Except Fault (Option Scan)} (ran : scan.step files c = (result, d))
    (ends : Scan.onward result = none)
    (others : ∀ other, now other → underWay other ∧ other.source ≠ scan.source) :
    Listens files path (heard ++ [scan.hearing]) now d := by
  have follows := listens.follows scan was
  refine listens.hear ?_ (fun never => ?_) (listens.fresh scan was)
    fun other isOther => ⟨(others other isOther).1, fun _ => (others other isOther).2⟩
  · rw [← Receiver.listen_told (tableAt files path)] at follows
    rw [Receiver.listen_append]
    exact (listens.represents.scanned follows ran).2 ends
  · exact (follows.early (decide_eq_false never)).1

end Listens

end V2xRosDriver.Radio
