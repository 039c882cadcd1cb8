/-
# Radio.Receiver -- what a client hears, whatever its transport

Seen from the node a radio client is a receiver: it is told of the wave file, it hears
datagrams, and of every datagram it raises what the scan delivers, one after the other.
Before it was told it raises nothing, and if it was told in the middle of a datagram it misses
what had gone by.  That is all of it; the two vectors, the moment they are filled and the
transport the datagrams come through do not show.

`Represents` relates a client to the receiver it stands for.  Telling keeps it, and so does
everything that touches neither the tables nor the signals (`Quiet`).
-/
import V2xRosDriver.Radio.LookAhead
import V2xRosDriver.Radio.WaveTables

namespace V2xRosDriver.Radio

set_option autoImplicit false

open V2xRosDriver.Theory.SuffixScan

/-! ## The receiver -/

/-- The receiver is told of its file, or hears a datagram: from which connection, and how many
bytes of it had gone by when the receiver was told. -/
inductive Hearing where
  | told
  | datagram (source : Nat) (data : List UInt8) (missed : Nat)
  deriving DecidableEq, Repr

structure Receiver where
  told : Bool := false
  raised : List MessageReceived := []
  deriving DecidableEq

/-- The message a datagram delivers over a table, if it delivers one. -/
def delivered (table : List WaveConfigStruct) (data : List UInt8) : List MessageReceived :=
  match inbound table data with
  | .delivered signal => [signal]
  | _ => []

namespace Receiver

variable (table : List WaveConfigStruct)

def hear (r : Receiver) : Hearing → Receiver
  | .told => { r with told := true }
  | .datagram _ data missed =>
      if r.told then { r with raised := r.raised ++ delivered table (data.drop missed) } else r

/-- The receiver that has heard all this. -/
def listen (heard : List Hearing) : Receiver := heard.foldl (hear table) {}

variable {table}

@[simp] theorem listen_append (heard : List Hearing) (last : Hearing) :
    listen table (heard ++ [last]) = (listen table heard).hear table last := by
  simp [listen]

@[simp] theorem hear_datagram_told (r : Receiver) (source : Nat) (data : List UInt8)
    (missed : Nat) : (r.hear table (.datagram source data missed)).told = r.told := by
  rw [hear]
  split <;> rfl

variable (table) in
/-- Whether the receiver was told is in what it heard. -/
theorem listen_told (heard : List Hearing) :
    (listen table heard).told = decide (.told ∈ heard) := by
  induction heard using List.reverseRecOn with
  | nil => rfl
  | append_singleton heard last ih =>
      cases last with
      | told => simp [hear]
      | datagram source data missed => simp [ih]

end Receiver

namespace Hearing

/-- The datagrams among what was heard, each with its connection. -/
def datagram? : Hearing → Option (Nat × List UInt8)
  | .told => none
  | .datagram source data _ => some (source, data)

/-- The connection of a datagram that was not heard whole. -/
def inPart? : Hearing → Option Nat
  | .told => none
  | .datagram source _ missed => if missed = 0 then none else some source

theorem filterMap_inPart_told (heard : List Hearing) :
    (heard ++ [Hearing.told]).filterMap inPart? = heard.filterMap inPart? :=
  (List.filterMap_append ..).trans (List.append_nil _)

end Hearing

/-! ## Clients -/

section Represents

variable {files : WaveFiles} {path : String} {table : List WaveConfigStruct}
  {c : BaseRadioClient} {r : Receiver}

/-- What a client loads that is told of the file. -/
def tableAt (files : WaveFiles) (path : String) : List WaveConfigStruct := lazily files path []

theorem delivered_short {data : List UInt8} (short : data.length < 4) :
    delivered table data = [] := by
  rw [delivered, inbound, scan_short (Nat.le_of_lt_succ short)]

@[simp] theorem lazyLoad_onMessageReceived (files : WaveFiles) (c : BaseRadioClient) :
    (lazyLoad files c).onMessageReceived = c.onMessageReceived := by
  rw [lazyLoad]
  split
  · rw [exec_loadWaveConfigIds]
  · rfl

@[simp] theorem lazyLoad_waveFilePath (files : WaveFiles) (c : BaseRadioClient) :
    (lazyLoad files c).waveFilePath = c.waveFilePath := by
  rw [lazyLoad]
  split
  · rw [exec_loadWaveConfigIds]
  · rfl

/-- Whoever has looked finds nothing more. -/
theorem lazily_lazily (files : WaveFiles) (path : String) (loaded : List WaveConfigStruct) :
    lazily files path (lazily files path loaded) = lazily files path loaded := by
  by_cases reads : loaded.isEmpty ∧ ¬ path.isEmpty
  · have read : lazily files path loaded = (files path).entries := if_pos reads
    rw [read, lazily]
    exact ite_eq_left_iff.mpr fun _ => rfl
  · have kept : lazily files path loaded = loaded := if_neg reads
    rw [kept, kept]

/-- A client with the objects `loaded` so far scans with those it finds when it looks. -/
theorem Aligned.exec_process {loaded : List WaveConfigStruct} (aligned : Aligned loaded c)
    (data : List UInt8) :
    ∃ after, (exec (Radio.process files data) c).2 = after ∧
      after.onMessageReceived =
        c.onMessageReceived ++ delivered (lazily files c.waveFilePath loaded) data ∧
      after.waveFilePath = c.waveFilePath ∧
      ∃ now, Aligned now after ∧
        lazily files c.waveFilePath now = lazily files c.waveFilePath loaded := by
  refine ⟨_, rfl, ?_⟩
  by_cases long : 4 ≤ data.length
  · have looked := aligned.lazyLoad files
    rw [aligned.process long, process_eq_inbound looked, delivered]
    refine ⟨?_, ?_, _, ?_, lazily_lazily files c.waveFilePath loaded⟩
    · cases inbound (lazily files c.waveFilePath loaded) data <;> simp [settle]
    · cases inbound (lazily files c.waveFilePath loaded) data <;> simp [settle]
    · cases inbound (lazily files c.waveFilePath loaded) data with
      | silent | failed fault => exact looked.aligned
      | delivered signal => exact (looked.log _).aligned
  · have short : data.length < 4 := Nat.lt_of_not_le long
    rw [exec_process_short short, delivered_short short, List.append_nil]
    exact ⟨rfl, rfl, loaded, aligned, rfl⟩

/-- The client stands for the receiver: its log is what the receiver raised, and it scans with
the table of the file once it was told of it. -/
structure Represents (files : WaveFiles) (path : String) (r : Receiver) (c : BaseRadioClient) :
    Prop where
  raised : c.onMessageReceived = r.raised
  file : c.waveFilePath = if r.told then path else ""
  table : ∃ loaded, Aligned loaded c ∧
    if r.told then lazily files path loaded = tableAt files path else loaded = []

theorem represents_start (files : WaveFiles) (path : String) : Represents files path {} {} :=
  ⟨rfl, rfl, [], ⟨rfl, rfl⟩, rfl⟩

/-- What a client scans with and what it has raised is the same in both states. -/
structure Quiet (c d : BaseRadioClient) : Prop where
  ids : d.waveCfgDsrcMsgIds = c.waveCfgDsrcMsgIds
  psids : d.waveCfgPsids = c.waveCfgPsids
  file : d.waveFilePath = c.waveFilePath
  raised : d.onMessageReceived = c.onMessageReceived

theorem Quiet.refl (c : BaseRadioClient) : Quiet c c := ⟨rfl, rfl, rfl, rfl⟩

/-- That is all there is to it. -/
theorem Quiet.represents {d : BaseRadioClient} (quiet : Quiet c d)
    (represents : Represents files path r c) : Represents files path r d := by
  obtain ⟨loaded, aligned, looks⟩ := represents.table
  exact ⟨quiet.raised.trans represents.raised, quiet.file.trans represents.file, loaded,
    ⟨quiet.ids.trans aligned.ids, quiet.psids.trans aligned.psids⟩, looks⟩

/-- `set_wave_file_path` tells the receiver. -/
theorem Represents.told (represents : Represents files path r c) :
    Represents files path (r.hear (tableAt files path) .told)
      (exec (setWaveFilePath path) c).2 := by
  obtain ⟨loaded, aligned, looks⟩ := represents.table
  refine ⟨represents.raised, rfl, loaded, ⟨aligned.ids, aligned.psids⟩, ?_⟩
  cases told : r.told with
  | false =>
      have empty : loaded = [] := by simpa [told] using looks
      subst empty
      rfl
  | true => simpa [told, Receiver.hear] using looks

end Represents

end V2xRosDriver.Radio
