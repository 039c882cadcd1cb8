/-
# Driver.Reconfigure -- configuring a node a second time

`handle_on_configure` sets `config_` and the client anew, but `loadWaveConfig` appends to
whatever table is there, and `pre_spin` starts no thread while `connecting_` is still set
by the thread of an earlier configure.  After a second configure the table holds every
entry twice (`second_configure_appends`), and the new client may never be connected.

If a configure begins with an empty table, and its `pre_spin` finds `connecting_` clear or
a thread that is still to call `connect`, it ends with the table of its own file and with
a connection attempt on its own client (`renewed_of_reachable`).  A client on which no
`connect` was called is not connected, so `pre_spin` does not pass it over; that is what
the invariant keeps of the clients (`Renewing.untouched`).
-/
import V2xRosDriver.Driver.Steps

namespace V2xRosDriver.Driver

set_option autoImplicit false

open V2xRosDriver.Theory.Transition
open V2xRosDriver.Radio

/-! ## Runs of configures -/

/-- A node with a record of its configures: the clients on which a `connect` was called, and the
client the latest configure makes with the entries of the file it loads. -/
structure ReconfiguredNode extends Node where
  attempts : List Nat := []
  latest : Option (Nat × List WaveConfigStruct) := none

namespace ReconfiguredNode

/-- Configures with valid files, and what goes on beside them: the executor, the connect thread
and the callbacks of the transports. -/
def step (s : ReconfiguredNode) : Node.Action → Option ReconfiguredNode
  | .configure config path (.accepted entries) =>
      match s.toNode.step (.configure config path (.accepted entries)) with
      | some node => some { s with toNode := node, latest := some (s.created, entries) }
      | none => none
  | .configure _ _ _ | .reconnect | .shutdown | .destruct => none
  | a =>
      match s.toNode.step a with
      | some node => some
          { s with
            toNode := node
            attempts := s.attempts ++ (connectCallsOf s.toNode a).map (·.client) }
      | none => none

/-- After a configure the table is that of its file, and a connection attempt has been started
on its client: `connect` was called on it, or a thread has been started and is about to. -/
def Renewed (s : ReconfiguredNode) : Prop :=
  s.toNode.Idle → ∀ c entries, s.latest = some (c, entries) →
    s.waveCfgItems = entries ∧ s.radioClient = some c ∧
      (c ∈ s.attempts ∨ s.connectThread = some .launched)

/-- The executor is about to test `connecting_`. -/
def Testing (s : ReconfiguredNode) : Prop :=
  s.closing = none ∧ s.deleting = none ∧ s.script.head? = some .testConnecting

instance (s : ReconfiguredNode) : Decidable s.Testing :=
  inferInstanceAs (Decidable (_ ∧ _ ∧ _))

/-- A configure begins with an empty table, and finds `connecting_` clear or a thread that is
still to call `connect`. -/
def Clear (s : ReconfiguredNode) : Node.Action → Prop
  | .configure _ _ _ => s.waveCfgItems = []
  | .executor => s.Testing → s.connecting = false ∨ s.connectThread = some .launched
  | _ => True

instance (s : ReconfiguredNode) : (a : Node.Action) → Decidable (s.Clear a)
  | .configure _ _ _ => inferInstanceAs (Decidable (s.waveCfgItems = []))
  | .executor => inferInstanceAs (Decidable (s.Testing → _))
  | .reconnect | .shutdown | .destruct | .thread _ | .connack _ _ _ _ | .dropped _ _
  | .error _ => .isTrue trivial

end ReconfiguredNode

/-- A node from its construction on, configured any number of times. -/
def reconfigurations : System ReconfiguredNode Node.Action where
  start s := s = {}
  step := ReconfiguredNode.step

/-! ## What a configure never does -/

/-- Instructions that leave the node without a thread or a client. -/
def Instr.destroys : Instr → Bool
  | .deleteClient | .releaseThread => true
  | _ => false

section Does

variable {s t : Node} {instr : Instr}

/-- What was not to be destroyed is not to be destroyed. -/
theorem Does.not_destroys (does : Does s instr t)
    (lasting : ∀ later ∈ s.script, later.destroys = false) :
    ∀ later ∈ t.script, later.destroys = false := by
  intro later waits
  rcases does.script waits with before | pushed
  · exact lasting later before
  · cases later <;> first | rfl | cases pushed

end Does

/-! ## The invariant -/

namespace ReconfiguredNode

/-- The client `c` is about to be made, or the node points to it and it was told to connect, or
is going to be. -/
def Pending (s : ReconfiguredNode) (c : Nat) : Prop :=
  (s.created = c ∧ ∃ path file, s.script = Node.handleOnConfigure path file) ∨
    (.createRadioClient ∉ s.script ∧ s.radioClient = some c ∧
      (c ∈ s.attempts ∨ s.connectThread = some .launched ∨
        ∃ later ∈ s.script, later.starts = true))

/-- The table and the client are, or are becoming, those of the latest configure, and a client
without a `connect` call is untouched. -/
structure Renewing (s : ReconfiguredNode) : Prop where
  pointed : ∀ c, s.radioClient = some c → c < s.created
  lasting : ∀ later ∈ s.script, later.destroys = false
  deleting : ∀ d, s.deleting = some d → s.radioClient ≠ some d
  connects : ∀ c, s.connectThread = some (.connecting c) → c ∈ s.attempts
  untouched : ∀ c, c < s.created → c ∉ s.attempts → (s.clients c).radio.Untouched
  table : ∀ c entries, s.latest = some (c, entries) →
    s.waveCfgItems ++ dueEntries s.script = entries
  client : ∀ c entries, s.latest = some (c, entries) → s.Pending c

variable {s t : ReconfiguredNode}

theorem step_configure_cases {config : Config} {path : String} {entries : List WaveConfigStruct}
    (moved : s.step (.configure config path (.accepted entries)) = some t) :
    t = { s with
      config := config
      script := Node.handleOnConfigure path (.accepted entries)
      latest := some (s.created, entries) } := by
  simp only [ReconfiguredNode.step] at moved
  split at moved
  · rename_i node configured
    obtain ⟨-, rfl⟩ := configure_cases configured
    exact (Option.some.inj moved).symm
  · cases moved

/-- What goes on beside the configures is a step of the node, with its `connect` call recorded. -/
theorem step_beside_cases {a : Node.Action}
    (other : ∀ config path file, a ≠ .configure config path file) (moved : s.step a = some t) :
    ∃ node, s.toNode.step a = some node ∧
      t = { s with
        toNode := node
        attempts := s.attempts ++ (connectCallsOf s.toNode a).map (·.client) } := by
  cases a with
  | configure config path file => exact absurd rfl (other config path file)
  | executor | thread | connack | dropped | error =>
      simp only [ReconfiguredNode.step] at moved
      split at moved
      · rename_i node stepped
        exact ⟨node, stepped, (Option.some.inj moved).symm⟩
      · cases moved
  | reconnect | shutdown | destruct => cases moved

theorem Renewing.renewed (renewing : s.Renewing) : s.Renewed := by
  rintro ⟨ended, -, -, -⟩ c entries latest
  have table := renewing.table c entries latest
  have client := renewing.client c entries latest
  simp only [Pending, ended, Node.handleOnConfigure] at client
  rw [ended] at table
  rcases client with ⟨-, path, file, script⟩ | ⟨-, points, started⟩
  · cases script
  · refine ⟨by rw [← table]; simp [dueEntries], points, ?_⟩
    rcases started with attempted | launched | ⟨later, waits, -⟩
    · exact .inl attempted
    · exact .inr launched
    · cases waits

theorem renewing_start : Renewing {} where
  pointed c points := by cases points
  lasting later waits := by cases waits
  deleting d deletes := by cases deletes
  connects c connects := by cases connects
  untouched c old := absurd old (Nat.not_lt_zero c)
  table c entries latest := by cases latest
  client c entries latest := by cases latest

/-- A configure begins. -/
theorem Renewing.configure (renewing : s.Renewing) (empty : s.waveCfgItems = [])
    (config : Config) (path : String) (entries : List WaveConfigStruct) :
    Renewing { s with
      config := config
      script := Node.handleOnConfigure path (.accepted entries)
      latest := some (s.created, entries) } where
  pointed := renewing.pointed
  lasting later waits := by
    simp only [Node.handleOnConfigure, Node.preSpin, List.cons_append, List.nil_append,
      List.mem_cons, List.not_mem_nil, or_false] at waits
    rcases waits with rfl | rfl | rfl | rfl | rfl | rfl | rfl <;> rfl
  deleting := renewing.deleting
  connects := renewing.connects
  untouched := renewing.untouched
  table c entries' latest := by
    cases latest
    show s.waveCfgItems ++ dueEntries (Node.handleOnConfigure path (.accepted entries)) = entries
    rw [empty]
    simp [Node.handleOnConfigure, Node.preSpin, dueEntries, WaveFile.entries]
  client c entries' latest := by
    cases latest
    exact .inl ⟨rfl, path, _, rfl⟩

/-- The executor takes an instruction off the callback while the node points to the latest
client. -/
theorem Renewing.pending_execute (renewing : s.Renewing) (allowed : s.Clear .executor)
    {node : Node} {instr : Instr} {rest : List Instr} {c : Nat} (open_ : s.closing = none)
    (undeleted : s.deleting = none) (script : s.script = instr :: rest)
    (does : Does { s.toNode with script := rest } instr node) (pending : s.Pending c) :
    Pending { s with toNode := node } c := by
  right
  rcases pending with ⟨made, path, file, configuring⟩ | ⟨created, points, started⟩
  · -- the client is made now
    rw [script] at configuring
    obtain ⟨creates, others⟩ := List.cons.inj configuring
    subst creates
    cases does with
    | aside plain => cases plain
    | createRadioClient =>
        have frame := createRadioClient_frame { s.toNode with script := rest }
        have later : Node.script (Node.createRadioClient { s.toNode with script := rest }) =
            rest := frame.script
        refine ⟨?_, ?_, .inr (.inr ⟨.testConnecting, ?_, rfl⟩)⟩
        · rw [later, others]
          simp [Node.preSpin]
        · rw [frame.radioClient]
          exact congrArg some made
        · rw [later, others]
          simp [Node.preSpin]
  · have behind {later : Instr} (waits : later ∈ rest) : later ∈ s.script := by
      rw [script]
      exact List.mem_cons_of_mem _ waits
    have head : instr ∈ s.script := by
      rw [script]
      exact List.mem_cons_self
    refine ⟨?_, ?_, ?_⟩
    · intro waits
      rcases does.script waits with before | pushed
      · exact created (behind before)
      · cases pushed
    · rcases does.pointer with ⟨-, client⟩ | ⟨rfl, -⟩
      · exact client.trans points
      · exact absurd head created
    · rcases started with attempted | launched | ⟨later, waits, starts⟩
      · exact .inl attempted
      · right
        left
        rcases does.thread with same | ⟨-, ended, -⟩ | ⟨-, new⟩ | ⟨rfl, -⟩
        · exact same.trans launched
        · rw [show s.connectThread = some .finished from ended] at launched
          cases launched
        · exact new
        · cases renewing.lasting _ head
      · rw [script, List.mem_cons] at waits
        rcases waits with rfl | waits
        · -- the instruction that was to start a thread is carried out
          cases does with
          | aside plain => cases later <;> first | (cases plain; done) | cases starts
          | alreadyConnecting already =>
              have testing : s.Testing := ⟨open_, undeleted, by rw [script]; rfl⟩
              rcases allowed testing with idle | launched
              · rw [show s.connecting = true from already] at idle
                cases idle
              · exact .inr (.inl launched)
          | notConnecting => exact .inr (.inr ⟨.testConnected, List.mem_cons_self, rfl⟩)
          | connected online =>
              left
              by_contra untold
              have untouched := renewing.untouched c (renewing.pointed c points) untold
              simp only [Node.clientConnected, points, untouched.connected] at online
              cases online
          | notConnected =>
              refine .inr (.inr ⟨.startThread, ?_, rfl⟩)
              simp
          | startThread => exact .inr (.inl rfl)
          | _ => cases starts
        · exact .inr (.inr ⟨later, does.tail waits, starts⟩)

/-- A step that makes no instruction: the callback, the pointer and the table stay as they
are. -/
theorem Renewing.aside (renewing : s.Renewing) {node : Node} {attempts : List Nat}
    (script : node.script = s.script) (client : node.radioClient = s.radioClient)
    (created : node.created = s.created) (items : node.waveCfgItems = s.waveCfgItems)
    (deleting : ∀ d, node.deleting = some d → s.deleting = some d)
    (grown : ∀ c ∈ s.attempts, c ∈ attempts)
    (connects : ∀ c, node.connectThread = some (.connecting c) → c ∈ attempts)
    (launched : s.connectThread = some .launched →
      node.connectThread = some .launched ∨ ∀ c, s.radioClient = some c → c ∈ attempts)
    (untouched : ∀ c, c ∉ attempts → (s.clients c).radio.Untouched →
      (node.clients c).radio.Untouched) :
    Renewing { s with toNode := node, attempts := attempts } where
  pointed c points := by
    show c < node.created
    rw [created]
    exact renewing.pointed c (client ▸ points)
  lasting later waits := renewing.lasting later (script ▸ waits)
  deleting d deletes := by
    show node.radioClient ≠ some d
    rw [client]
    exact renewing.deleting d (deleting d deletes)
  connects := connects
  untouched c old untold :=
    untouched c untold (renewing.untouched c (created ▸ old) fun told => untold (grown c told))
  table c entries latest := by
    show node.waveCfgItems ++ dueEntries node.script = entries
    rw [items, script]
    exact renewing.table c entries latest
  client c entries latest := by
    show (node.created = c ∧ ∃ path file, node.script = Node.handleOnConfigure path file) ∨
      (.createRadioClient ∉ node.script ∧ node.radioClient = some c ∧
        (c ∈ attempts ∨ node.connectThread = some .launched ∨
          ∃ later ∈ node.script, later.starts = true))
    rw [created, script, client]
    rcases renewing.client c entries latest with made | ⟨created, points, started⟩
    · exact .inl made
    · refine .inr ⟨created, points, ?_⟩
      rcases started with told | starting | due
      · exact .inl (grown c told)
      · rcases launched starting with still | told
        · exact .inr (.inl still)
        · exact .inl (told c points)
      · exact .inr (.inr due)

/-- One step of the executor. -/
theorem Renewing.executorStep (renewing : s.Renewing) (allowed : s.Clear .executor) {node : Node}
    (moved : s.toNode.executorStep = some node) : Renewing { s with toNode := node } := by
  have serves := executorStep_serves moved
  rcases executorStep_cases moved with ⟨c, -, rfl⟩ | ⟨c, -, deleting, rfl⟩ |
    ⟨instr, rest, open_, undeleted, script, executed⟩
  · exact renewing.aside rfl rfl rfl rfl (fun _ => id) (fun _ => id) renewing.connects .inl
      fun d _ clean => clean.serves (serves_stepClose s.toNode _ d)
  · refine renewing.aside rfl ?_ rfl rfl (fun d deletes => ?_) (fun _ => id) renewing.connects
      .inl fun d _ clean => ?_
    · exact if_neg (renewing.deleting c deleting)
    · cases deletes
    · rw [Node.finishDelete_radio]
      exact clean
  · have does := execute_does executed
    have behind {later : Instr} (waits : later ∈ rest) : later ∈ s.script := by
      rw [script]
      exact List.mem_cons_of_mem _ waits
    have head : instr ∈ s.script := by
      rw [script]
      exact List.mem_cons_self
    refine ⟨?_, ?_, ?_, ?_, ?_, ?_, ?_⟩
    · intro c points
      show c < node.created
      rcases does.pointer with ⟨created, client⟩ | ⟨-, created, client⟩
      · rw [created]
        exact renewing.pointed c (client ▸ points)
      · rw [show node.radioClient = some c from points] at client
        rw [created, Option.some.inj client]
        exact Nat.lt_succ_self _
    · exact does.not_destroys fun later waits => renewing.lasting later (behind waits)
    · intro d deletes
      rcases execute_deleting executed with same | ⟨e, points, begins, rfl | another⟩
      · rw [show node.deleting = some d from deletes] at same
        exact absurd (same.trans undeleted) (by simp)
      · cases renewing.lasting _ head
      · rw [show node.deleting = some d from deletes] at begins
        have old : d < s.created := renewing.pointed d (points.trans begins.symm)
        show node.radioClient ≠ some d
        rw [another]
        intro same
        exact Nat.ne_of_lt old (Option.some.inj same).symm
    · exact fun c connects => renewing.connects c (does.connects connects)
    · intro c old untold
      rcases serves c with ⟨served, created | other⟩ | ⟨-, -, served⟩
      · exact (renewing.untouched c (created ▸ old) untold).serves served
      · have before : c < s.created := by
          rcases does.pointer with ⟨created, -⟩ | ⟨-, created, -⟩
          · exact created ▸ old
          · have below : c < s.created + 1 := created ▸ old
            omega
        exact (renewing.untouched c before untold).serves served
      · exact (RadioClient.untouched_newRadioClient s.config).serves served
    · intro c entries latest
      show node.waveCfgItems ++ dueEntries node.script = entries
      rw [does.dueEntries, ← script]
      exact renewing.table c entries latest
    · intro c entries latest
      exact renewing.pending_execute allowed open_ undeleted script does
        (renewing.client c entries latest)

/-- One step of the connect thread. -/
theorem Renewing.threadStep (renewing : s.Renewing) {succeeds : Bool} {node : Node}
    (moved : s.toNode.threadStep succeeds = some node) :
    Renewing { s with
      toNode := node
      attempts := s.attempts ++
        (connectCallsOf s.toNode (.thread succeeds)).map (·.client) } := by
  have grown (more : List Nat) (c : Nat) (told : c ∈ s.attempts) : c ∈ s.attempts ++ more :=
    List.mem_append_left _ told
  rcases threadStep_cases moved with ⟨c, launched, points, rfl⟩ |
    ⟨c, connects, rfl⟩ | ⟨returned, rfl⟩
  · -- `connect` is called on the client the node points to
    have calls : (connectCallsOf s.toNode (.thread succeeds)).map (·.client) = [c] := by
      simp [connectCallsOf, launched, points]
    rw [calls]
    refine renewing.aside rfl rfl rfl rfl (fun _ => id) (grown _) (fun d connects => ?_)
      (fun _ => .inr fun d pointed => ?_) fun d untold clean => ?_
    · cases connects
      simp
    · rw [show s.radioClient = some d from pointed] at points
      simp [Option.some.inj points]
    · have other : d ≠ c := by
        rintro rfl
        exact untold (by simp)
      rw [s.toNode.onClient_ne other]
      exact clean
  · refine renewing.aside rfl rfl rfl rfl (fun _ => id) (grown _) (fun d connecting => ?_)
      (fun launched => ?_) fun d untold clean => ?_
    · simp only [Option.some.injEq] at connecting
      split at connecting
      · cases connecting
        exact grown _ _ (renewing.connects _ connects)
      · cases connecting
    · rw [launched] at connects
      cases connects
    · have other : d ≠ c := by
        rintro rfl
        exact untold (grown _ _ (renewing.connects _ connects))
      rw [s.toNode.onClient_ne other]
      exact clean
  · refine renewing.aside rfl rfl rfl rfl (fun _ => id) (grown _) (fun d connecting => ?_)
      (fun launched => ?_) fun d _ clean => clean
    · cases connecting
    · rw [launched] at returned
      cases returned

/-- A callback of a transport. -/
theorem Renewing.callBack (renewing : s.Renewing) {c : Nat}
    {answer : RadioClient → Option RadioClient} {node : Node}
    (serves : ∀ r answered, answer r = some answered → Serves s.script r answered)
    (moved : s.toNode.callBack c answer = some node) : Renewing { s with toNode := node } := by
  obtain ⟨radio, served, rfl⟩ := callBack_serves serves moved
  exact renewing.aside rfl rfl rfl rfl (fun _ => id) (fun _ => id) renewing.connects .inl
    fun d _ clean => clean.serves (serves_onClient s.toNode served d)

/-! ## Runs -/

/-- One step. -/
theorem Renewing.step (renewing : s.Renewing) {a : Node.Action} (allowed : s.Clear a)
    (moved : s.step a = some t) : t.Renewing := by
  by_cases configures : ∃ config path file, a = .configure config path file
  · obtain ⟨config, path, file, rfl⟩ := configures
    cases file with
    | accepted entries =>
        rw [step_configure_cases moved]
        exact renewing.configure allowed config path entries
    | _ => cases moved
  · push Not at configures
    obtain ⟨node, stepped, rfl⟩ := step_beside_cases configures moved
    have unrecorded (still : Renewing { s with toNode := node })
        (silent : connectCallsOf s.toNode a = []) :
        Renewing { s with
          toNode := node
          attempts := s.attempts ++ (connectCallsOf s.toNode a).map (·.client) } := by
      rw [silent, List.map_nil, List.append_nil]
      exact still
    cases a with
    | configure config path file => exact absurd rfl (configures config path file)
    | thread succeeds => exact renewing.threadStep stepped
    | executor => exact unrecorded (renewing.executorStep allowed stepped) rfl
    | connack c handle rc accepted =>
        exact unrecorded (renewing.callBack (fun _ _ => .connack) stepped) rfl
    | dropped c handle =>
        exact unrecorded (renewing.callBack (fun _ _ => .dropped) stepped) rfl
    | error c =>
        obtain ⟨-, rfl⟩ := error_cases stepped
        have still : Renewing { s with toNode := { s.toNode with radioClientError := true } } :=
          renewing.aside rfl rfl rfl rfl (fun _ => id) (fun _ => id) renewing.connects .inl
            fun _ _ clean => clean
        exact unrecorded still rfl
    | reconnect | shutdown | destruct => cases moved

/-- **When configuring again is configuring afresh.**  In every run in which each configure
begins with an empty table, and finds `connecting_` clear or a thread that is still to call
`connect`, a configure leaves exactly the entries of its file and a connection attempt on the
client it made. -/
theorem renewed_of_reachable (reached : reconfigurations.ReachableUnder Clear s) : s.Renewed := by
  apply Renewing.renewed
  apply reached.invariant
  · rintro _ rfl
    exact renewing_start
  · intro u a v renewing allowed moved
    exact renewing.step allowed moved

/-- A first configure with this file, and its connect thread to the end. -/
def firstCycle (entries : List WaveConfigStruct) : List Node.Action :=
  .configure {} "share/v2x_ros_driver/etc/wave.json" (.accepted entries) ::
    List.replicate 11 Node.Action.executor ++ List.replicate 15 (Node.Action.thread true)

/-- A second configure, which closes and deletes the connected client of the first. -/
def secondCycle (entries : List WaveConfigStruct) : List Node.Action :=
  .configure {} "share/v2x_ros_driver/etc/wave.json" (.accepted entries) ::
    List.replicate 20 .executor

/-- The file was empty the first time. -/
def filledNode : ReconfiguredNode :=
  (reconfigurations.runUnder Clear {} (firstCycle [] ++ secondCycle waveJson)).getD {}

theorem filledNode_reached : reconfigurations.ReachableUnder Clear filledNode := by
  have succeeds : (reconfigurations.runUnder Clear {}
      (firstCycle [] ++ secondCycle waveJson)).isSome = true := rfl
  exact System.reachableUnder_getD (.start rfl) succeeds {}

theorem filledNode_renewed :
    filledNode.waveCfgItems = waveJson ∧ filledNode.radioClient = some 1 ∧
      (1 ∈ filledNode.attempts ∨ filledNode.connectThread = some .launched) :=
  renewed_of_reachable filledNode_reached ⟨rfl, rfl, rfl, rfl⟩ 1 waveJson rfl

/-- A node configured twice with the shipped file. -/
def doubledNode : ReconfiguredNode :=
  (reconfigurations.run {} (firstCycle waveJson ++ secondCycle waveJson)).getD {}

/-- The table holds every entry twice. -/
theorem second_configure_appends : ¬ ∀ s, reconfigurations.Reachable s → s.Renewed := by
  intro renewed
  have succeeds : (reconfigurations.run {}
      (firstCycle waveJson ++ secondCycle waveJson)).isSome = true := rfl
  have reached : reconfigurations.Reachable doubledNode :=
    System.reachable_getD (.start rfl) succeeds {}
  have table := (renewed doubledNode reached ⟨rfl, rfl, rfl, rfl⟩ 1 waveJson rfl).1
  have doubled : doubledNode.waveCfgItems = waveJson ++ waveJson := rfl
  rw [doubled] at table
  exact absurd (congrArg List.length table) (by decide)

end ReconfiguredNode

end V2xRosDriver.Driver
