/-
# Driver.Preparation -- the client of a node, and what it knows of its file

A first configure makes the one client of the node, and tells it of the wave file near its end
(`Prepared`).  What comes behind, reconnects and the shutdown, has only instructions that leave
the pointer, the file and the table alone (`Calm`); they, the connect thread and the callbacks
of the transport change of the part both transports share only the log of connection signals
(`calm_step`).
-/
import V2xRosDriver.Driver.Inbound
import V2xRosDriver.Radio.InFlight

namespace V2xRosDriver.Driver

set_option autoImplicit false

open V2xRosDriver.Theory.Transition
open V2xRosDriver.Radio

/-! ## The shared part of a client -/

/-- The client may have raised connection signals in between. -/
def Signalled (c d : BaseRadioClient) : Prop := ∃ signals, d = c.withSignals signals

theorem Signalled.refl (c : BaseRadioClient) : Signalled c c := ⟨c.connectionSignals, rfl⟩

section Base

variable {script : List Instr} {r r' : RadioClient}

theorem base_newRadioClient (config : Config) : (Node.newRadioClient config).base = {} := by
  rw [Node.newRadioClient]
  split <;> rfl

theorem signalled_beginConnect (r : RadioClient) (endpoint : Endpoint) :
    Signalled r.base (r.beginConnect endpoint).base := by
  cases r <;> exact .refl _

theorem signalled_stepConnect (r : RadioClient) (succeeds : Bool) :
    Signalled r.base (r.stepConnect succeeds).base := by
  cases r with
  | mqtt calls =>
      simp only [RadioClient.stepConnect, RadioClient.base, Calls.stepConnect]
      cases calls.connectAt <;> exact .refl _
  | udp calls =>
      simp only [RadioClient.stepConnect, RadioClient.base, Calls.stepConnect]
      cases calls.connectAt with
      | none => exact .refl _
      | some call =>
          obtain ⟨endpoint, pc⟩ := call
          cases pc with
          | signal => exact ⟨_, BaseRadioClient.signal_eq _ _⟩
          | _ =>
              simp only [Udp.UdpRadioClient.connectStep]
              first | exact .refl _ | (split <;> exact .refl _)

theorem signalled_stepClose (r : RadioClient) : Signalled r.base r.stepClose.base := by
  cases r with
  | mqtt calls =>
      simp only [RadioClient.stepClose, RadioClient.base, Calls.stepClose]
      cases calls.closeAt with
      | none => exact .refl _
      | some pc =>
          simp only [Mqtt.MqttRadioClient.closeStep]
          split
          · exact ⟨_, BaseRadioClient.signal_eq _ _⟩
          · exact .refl _
  | udp calls =>
      simp only [RadioClient.stepClose, RadioClient.base, Calls.stepClose]
      cases calls.closeAt with
      | none => exact .refl _
      | some pc =>
          cases pc with
          | signal => exact ⟨_, BaseRadioClient.signal_eq _ _⟩
          | _ =>
              simp only [Udp.UdpRadioClient.closeStep]
              first | exact .refl _ | (split <;> exact .refl _)

theorem signalled_connack {h : Nat} {rc : Int} {accepted : Bool}
    (answer : r.connack h rc accepted = some r') : Signalled r.base r'.base := by
  obtain ⟨calls, rfl, -, rfl⟩ := RadioClient.connack_cases answer
  simp only [RadioClient.base, Mqtt.MqttRadioClient.handleConnect,
    Mqtt.MqttRadioClient.subscribeToTopics]
  split
  · split <;> exact ⟨_, BaseRadioClient.signal_eq _ _⟩
  · exact .refl _

theorem signalled_dropped {h : Nat} (answer : r.dropped h = some r') :
    Signalled r.base r'.base := by
  obtain ⟨calls, rfl, -, rfl⟩ := RadioClient.dropped_cases answer
  exact .refl _

/-- What is served is told of the file of the callback at most. -/
theorem base_serves (serves : Serves script r r') :
    Signalled r.base r'.base ∨
      ∃ path, .setWaveFilePath path ∈ script ∧ r'.base = { r.base with waveFilePath := path } := by
  cases serves with
  | nothing => exact .inl (.refl _)
  | setWaveFilePath due => exact .inr ⟨_, due, by cases r <;> rfl⟩
  | beginClose => exact .inl (by cases r <;> exact .refl _)
  | stepClose => exact .inl (signalled_stepClose r)
  | connack answer => exact .inl (signalled_connack answer)
  | dropped answer => exact .inl (signalled_dropped answer)

end Base

/-! ## The client of a first configure -/

/-- Instructions that replace or delete the client. -/
def Instr.swaps : Instr → Bool
  | .createRadioClient | .deleteClient => true
  | _ => false

/-- No instruction a callback has left replaces or deletes the client; none of `pre_spin` does. -/
def SwapFree (script : List Instr) : Prop := ∀ later ∈ script, later.swaps = false

/-- How far a first configure has come: it is at its beginning, or has made the one client, which
is told of the file or is to be told. -/
inductive Configuring (files : WaveFiles) (path : String) (s : Node) : Prop
  | fresh (script : s.script = Node.handleOnConfigure path (files path))
      (without : s.radioClient = none)
  | created {c : Nat} (points : s.radioClient = some c) (kept : SwapFree s.script)
      (told : .setWaveFilePath path ∈ s.script ∨
        (s.clients c).radio.base.waveFilePath = path)

/-- The clients of a first configure scan with the file of the node. -/
structure Prepared (files : WaveFiles) (path : String) (s : Node) : Prop where
  deleting : s.deleting = none
  due : ∀ p, .setWaveFilePath p ∈ s.script → p = path
  stage : Configuring files path s
  scans : ∀ c, Scans files path (s.clients c).radio.base

section Prepared

variable {files : WaveFiles} {path : String} {s t : Node}

theorem scans_new (files : WaveFiles) (path : String) : Scans files path {} :=
  ⟨[], ⟨rfl, rfl⟩, .inl ⟨rfl, rfl⟩⟩

theorem Signalled.scans {c d : BaseRadioClient} (signalled : Signalled c d)
    (scans : Scans files path c) : Scans files path d := by
  obtain ⟨signals, rfl⟩ := signalled
  exact scans.congr rfl rfl rfl

theorem Signalled.file {c d : BaseRadioClient} (signalled : Signalled c d) :
    d.waveFilePath = c.waveFilePath := by
  obtain ⟨signals, rfl⟩ := signalled
  rfl

theorem scans_serves {script : List Instr} {r r' : RadioClient}
    (due : ∀ p, .setWaveFilePath p ∈ script → p = path) (scans : Scans files path r.base)
    (serves : Serves script r r') : Scans files path r'.base := by
  rcases base_serves serves with signalled | ⟨p, waits, told⟩
  · exact signalled.scans scans
  · rw [told, due p waits]
    exact scans.told

/-- What a client was told, it keeps. -/
theorem file_serves {script : List Instr} {r r' : RadioClient}
    (due : ∀ p, .setWaveFilePath p ∈ script → p = path) (told : r.base.waveFilePath = path)
    (serves : Serves script r r') : r'.base.waveFilePath = path := by
  rcases base_serves serves with signalled | ⟨p, waits, now⟩
  · rw [signalled.file, told]
  · rw [now, due p waits]

theorem prepared_start (files : WaveFiles) (config : Config) (path : String) :
    Prepared files path
      { config := config, script := Node.handleOnConfigure path (files path) } where
  deleting := rfl
  due p waits := by
    simpa [Node.handleOnConfigure, Node.preSpin] using waits
  stage := .fresh rfl rfl
  scans c := scans_new files path

/-- A step that leaves the pointer, the destructors, the callback and the table alone, and of the
clients all but their sessions. -/
structure Beside (s t : Node) : Prop where
  points : t.radioClient = s.radioClient
  deleting : t.deleting = s.deleting
  script : t.script = s.script
  items : t.waveCfgItems = s.waveCfgItems
  bases : ∀ d, Signalled (s.clients d).radio.base (t.clients d).radio.base

theorem beside_onClient (s : Node) {c : Nat} {change : RadioClient → RadioClient}
    (signalled : Signalled (s.clients c).radio.base (change (s.clients c).radio).base) :
    Beside s (s.onClient c change) :=
  ⟨rfl, rfl, rfl, rfl, s.forall_onClient
    (P := fun d radio => Signalled (s.clients d).radio.base radio.base) signalled
    fun _ _ => .refl _⟩

theorem beside_callBack {c : Nat} {answer : RadioClient → Option RadioClient}
    (signalled : ∀ r answered, answer r = some answered → Signalled r.base answered.base)
    (moved : s.callBack c answer = some t) : Beside s t := by
  obtain ⟨radio, answered, rfl⟩ := callBack_cases moved
  exact beside_onClient s (signalled _ _ answered)

/-- What a step of a configuring node is: an instruction of the callback, or beside it. -/
theorem configuring_cases (deleting : s.deleting = none) {a : Node.Action}
    (configuring : a.configuring = true) (moved : s.step a = some t) :
    Beside s t ∨ ∃ instr rest, s.script = instr :: rest ∧
      { s with script := rest }.execute instr = some t := by
  cases a with
  | executor =>
      rcases executorStep_cases moved with ⟨c, -, rfl⟩ | ⟨c, -, deletes, -⟩ |
        ⟨instr, rest, -, -, script, executed⟩
      · have stepped := beside_onClient s (signalled_stepClose (s.clients c).radio)
        exact .inl ⟨stepped.points, stepped.deleting, stepped.script, stepped.items, stepped.bases⟩
      · rw [deleting] at deletes
        cases deletes
      · exact .inr ⟨instr, rest, script, executed⟩
  | thread succeeds =>
      left
      rcases threadStep_cases moved with ⟨c, -, -, rfl⟩ | ⟨c, -, rfl⟩ | ⟨-, rfl⟩
      · have begun := beside_onClient s
          (signalled_beginConnect (s.clients c).radio (Node.endpoint s.config))
        exact ⟨begun.points, begun.deleting, begun.script, begun.items, begun.bases⟩
      · have stepped := beside_onClient s (signalled_stepConnect (s.clients c).radio succeeds)
        exact ⟨stepped.points, stepped.deleting, stepped.script, stepped.items, stepped.bases⟩
      · exact ⟨rfl, rfl, rfl, rfl, fun d => .refl _⟩
  | connack c handle rc accepted =>
      exact .inl (beside_callBack (fun _ _ => signalled_connack) moved)
  | dropped c handle => exact .inl (beside_callBack (fun _ _ => signalled_dropped) moved)
  | error c =>
      obtain ⟨-, rfl⟩ := error_cases moved
      exact .inl ⟨rfl, rfl, rfl, rfl, fun d => .refl _⟩
  | _ => cases configuring

theorem Prepared.beside (prepared : Prepared files path s) (beside : Beside s t) :
    Prepared files path t where
  deleting := beside.deleting.trans prepared.deleting
  due p waits := prepared.due p (beside.script ▸ waits)
  stage := by
    cases prepared.stage with
    | fresh all without =>
        exact .fresh (beside.script.trans all) (beside.points.trans without)
    | created points kept told =>
        refine .created (beside.points.trans points) ?_ ?_
        · rw [beside.script]
          exact kept
        · rw [beside.script, (beside.bases _).file]
          exact told
  scans d := (beside.bases d).scans (prepared.scans d)

theorem swaps_of_pushed {instr : Instr} (pushed : instr.pushed = true) : instr.swaps = false := by
  cases instr <;> first | rfl | cases pushed

theorem execute_keeps_deleting {instr : Instr} (plain : instr.swaps = false)
    (moved : s.execute instr = some t) : t.deleting = s.deleting := by
  cases instr with
  | close =>
      cases moved
      rw [Node.close]
      split <;> rfl
  | setWaveFilePath | wireHandlers =>
      simp only [Node.execute] at moved
      split at moved <;>
      · cases moved
        rfl
  | testError | testConnecting | testConnected =>
      cases moved
      split <;> rfl
  | join =>
      simp only [Node.execute, Node.join] at moved
      split at moved <;> cases moved <;> rfl
  | clearError | setConnecting | clearConnecting | startThread | loadWaveConfig
  | releaseThread =>
      cases moved
      rfl
  | createRadioClient | deleteClient => cases plain

/-- The configure makes its client. -/
theorem Prepared.create (prepared : Prepared files path s) {rest : List Instr}
    (all : s.script = Node.handleOnConfigure path (files path)) (without : s.radioClient = none)
    (script : s.script = .createRadioClient :: rest) :
    Prepared files path { s with script := rest }.createRadioClient := by
  have behind : rest = Node.preSpin ++ [.loadWaveConfig (files path), .setWaveFilePath path,
      .clearError, .wireHandlers] := by
    rw [script] at all
    exact (List.cons.inj all).2
  have made : { s with script := rest }.createRadioClient =
      { s with
        script := rest
        clients := Function.update s.clients s.created { radio := Node.newRadioClient s.config }
        created := s.created + 1
        radioClient := some s.created } := by
    simp only [Node.createRadioClient, without]
  rw [made]
  refine ⟨prepared.deleting, fun p waits => ?_, .created rfl ?_ (.inl ?_), fun d => ?_⟩
  · exact prepared.due p (script ▸ List.mem_cons_of_mem _ waits)
  · simp [SwapFree, behind, Node.preSpin, Instr.swaps]
  · simp [behind]
  · by_cases new : d = s.created
    · subst new
      simp only [Function.update_self, base_newRadioClient]
      exact scans_new files path
    · simp only [Function.update_of_ne new]
      exact prepared.scans d

theorem Prepared.execute (prepared : Prepared files path s) {instr : Instr} {rest : List Instr}
    (script : s.script = instr :: rest) {c : Nat} (points : s.radioClient = some c)
    (kept : SwapFree s.script)
    (told : .setWaveFilePath path ∈ s.script ∨ (s.clients c).radio.base.waveFilePath = path)
    (executed : { s with script := rest }.execute instr = some t) : Prepared files path t := by
  have plain : instr.swaps = false := kept instr (script ▸ List.mem_cons_self)
  have other : instr ≠ .createRadioClient := by
    rintro rfl
    cases plain
  have does := execute_does executed
  have serves (d : Nat) : Serves s.script (s.clients d).radio (t.clients d).radio := by
    rw [script]
    exact execute_serves other executed d
  have waits (later : Instr) (among : later ∈ t.script) :
      later ∈ rest ∨ later.pushed = true := does.script among
  have pointer : t.radioClient = some c := by
    rcases does.pointer with ⟨-, same⟩ | ⟨creates, -⟩
    · exact same.trans points
    · exact absurd creates other
  refine ⟨(execute_keeps_deleting plain executed).trans prepared.deleting, fun p among => ?_,
    .created pointer (fun later among => ?_) ?_, fun d => ?_⟩
  · rcases waits _ among with before | pushed
    · exact prepared.due p (script ▸ List.mem_cons_of_mem _ before)
    · cases pushed
  · rcases waits later among with before | pushed
    · exact kept later (script ▸ List.mem_cons_of_mem _ before)
    · exact swaps_of_pushed pushed
  · rcases told with due | already
    · rw [script] at due
      rcases List.mem_cons.mp due with rfl | behind
      · -- the client is told now
        right
        simp only [Node.execute, points, Option.some.injEq] at executed
        subst executed
        simp only [Node.onClient, Function.update_self]
        cases (s.clients c).radio <;> rfl
      · exact .inl (does.tail behind)
    · exact .inr (file_serves prepared.due already (serves c))
  · exact scans_serves prepared.due (prepared.scans d) (serves d)

/-- A step of the node. -/
theorem Prepared.nodeStep (prepared : Prepared files path s) {a : Node.Action}
    (configuring : a.configuring = true) (moved : s.step a = some t) : Prepared files path t := by
  rcases configuring_cases prepared.deleting configuring moved with
    beside | ⟨instr, rest, script, executed⟩
  · exact prepared.beside beside
  · cases prepared.stage with
    | fresh all without =>
        have first : instr = .createRadioClient := by
          rw [script] at all
          exact (List.cons.inj all).1
        subst first
        cases executed
        exact prepared.create all without script
    | created points kept told => exact prepared.execute script points kept told executed

/-- The client scans on. -/
theorem Prepared.scan (prepared : Prepared files path s) (c : Nat) (data : List UInt8)
    (pc : ProcessPc) :
    Prepared files path (s.onClient c
      (RadioClient.withBase (exec (processStep files data pc) (s.clients c).radio.base).2)) := by
  have file := (prepared.scans c).step_file data pc
  refine ⟨prepared.deleting, prepared.due, ?_, ?_⟩
  · cases prepared.stage with
    | fresh all without => exact .fresh all without
    | @created d points kept told =>
        refine .created points kept (told.imp id fun already => ?_)
        by_cases same : d = c
        · subst same
          simp only [Node.onClient, Function.update_self, base_withBase, file]
          exact already
        · simp only [Node.onClient, Function.update_of_ne same]
          exact already
  · refine s.forall_onClient (P := fun _ radio => Scans files path radio.base) ?_
      fun d _ => prepared.scans d
    rw [base_withBase]
    exact (prepared.scans c).step data pc

end Prepared

/-! ## Behind the configure -/

/-- Instructions that leave the pointer, the file of the client and the table alone. -/
def Instr.calm : Instr → Bool
  | .createRadioClient | .deleteClient | .loadWaveConfig _ | .setWaveFilePath _ => false
  | _ => true

def Calm (script : List Instr) : Prop := ∀ later ∈ script, later.calm = true

/-- A step of a callback that is calm, or beside it. -/
structure CalmStep (s t : Node) : Prop where
  points : t.radioClient = s.radioClient
  deleting : t.deleting = s.deleting
  items : t.waveCfgItems = s.waveCfgItems
  script : Calm t.script
  bases : ∀ d, Signalled (s.clients d).radio.base (t.clients d).radio.base

section Calm

variable {files : WaveFiles} {path : String} {s t : Node}

theorem calm_nil : Calm [] := fun _ among => absurd among List.not_mem_nil

theorem calm_reconnectSrv : Calm Node.reconnectSrv := by
  simp [Calm, Node.reconnectSrv, Node.preSpin, Instr.calm]

theorem calm_handleOnShutdown : Calm Node.handleOnShutdown := by
  simp [Calm, Node.handleOnShutdown, Instr.calm]

theorem calm_of_pushed {instr : Instr} (pushed : instr.pushed = true) : instr.calm = true := by
  cases instr <;> first | rfl | cases pushed

theorem swaps_of_calm {instr : Instr} (calm : instr.calm = true) : instr.swaps = false := by
  cases instr <;> first | rfl | cases calm

/-- A calm callback has no file due, -/
theorem Calm.untold {script : List Instr} (calm : Calm script) (p : String) :
    .setWaveFilePath p ∉ script := fun due => by cases calm _ due

/-- and no entry. -/
theorem Calm.dueEntries {script : List Instr} (calm : Calm script) :
    Driver.dueEntries script = [] := by
  induction script with
  | nil => rfl
  | cons instr rest ih =>
      obtain ⟨first, behind⟩ := List.forall_mem_cons.mp calm
      cases instr with
      | loadWaveConfig file => cases first
      | _ => exact ih behind

theorem calm_step (deleting : s.deleting = none) (calm : Calm s.script) {a : Node.Action}
    (configuring : a.configuring = true) (moved : s.step a = some t) : CalmStep s t := by
  rcases configuring_cases deleting configuring moved with
    beside | ⟨instr, rest, script, executed⟩
  · exact ⟨beside.points, beside.deleting, beside.items, beside.script ▸ calm, beside.bases⟩
  · have plain : instr.calm = true := calm instr (script ▸ List.mem_cons_self)
    have other : instr ≠ .createRadioClient := by
      rintro rfl
      cases plain
    have does := execute_does executed
    have deletes := execute_keeps_deleting (swaps_of_calm plain) executed
    refine ⟨?_, deletes, ?_, fun later among => ?_, fun d => ?_⟩
    · rcases does.pointer with ⟨-, same⟩ | ⟨creates, -⟩
      · exact same
      · exact absurd creates other
    · rcases does.waveCfgItems with same | ⟨file, rfl, -⟩
      · exact same
      · cases plain
    · rcases does.script among with before | pushed
      · exact calm later (script ▸ List.mem_cons_of_mem _ before)
      · exact calm_of_pushed pushed
    · rcases base_serves (execute_serves other executed d) with signalled | ⟨p, due, -⟩
      · exact signalled
      · exact absurd (script ▸ due) (calm.untold p)

/-- In a calm callback the client is there and was told of the file. -/
theorem Prepared.told (prepared : Prepared files path s) (calm : Calm s.script) :
    ∃ c, s.radioClient = some c ∧ (s.clients c).radio.base.waveFilePath = path := by
  cases prepared.stage with
  | fresh all without =>
      have first : Instr.calm .createRadioClient = true :=
        calm _ (by rw [all]; exact List.mem_cons_self)
      cases first
  | @created c points kept told => exact ⟨c, points, told.resolve_left (calm.untold path)⟩

/-- A calm callback begins behind another. -/
theorem Prepared.call (prepared : Prepared files path s) (over_ : s.script = [])
    {script : List Instr} (calm : Calm script) :
    Prepared files path { s with script := script } := by
  obtain ⟨c, points, told⟩ := prepared.told (over_ ▸ calm_nil)
  exact ⟨prepared.deleting, fun p due => absurd due (calm.untold p),
    .created points (fun later among => swaps_of_calm (calm later among)) (.inr told),
    prepared.scans⟩

end Calm

end V2xRosDriver.Driver
