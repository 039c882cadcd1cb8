/-
# Driver.Lifecycle -- who joins the connect thread?

`pre_spin` joins an ended connect thread before it starts another.  The last one is joined
by `handle_on_shutdown` alone, and that function takes no argument: it overrides nothing,
so the shutdown transition, which hands its handler the previous state, never runs it.
The destructor of a node then destroys a thread that can still be joined.

From the end of its construction to that of its destruction a node is orderly exactly when
it was never configured (`orderly_iff_never_configured`): once a configure has begun there
is a thread, or one is about to be started, until the destructor releases it (`Started`,
`Doomed`).
-/
import V2xRosDriver.Driver.Steps

namespace V2xRosDriver.Driver

set_option autoImplicit false

open V2xRosDriver.Theory.Transition
open V2xRosDriver.Radio

/-! ## The lifecycle -/

/-- What the shutdown transition runs of the node: nothing.  The transition calls its handler with
the `rclcpp_lifecycle::State`, as it calls `handle_on_configure`; `handle_on_shutdown ()`, which
takes none, is another function and overrides nothing. -/
def shutdownScript : List Instr := []

/-- One step of a node under its lifecycle. -/
def lifecycleStep (s : Node) : Node.Action → Option Node
  | .shutdown => if s.Idle then some { s with script := shutdownScript } else none
  | a => s.step a

/-- A node from its construction on, under every sequence of transitions. -/
def lifecycle : System Node Node.Action where
  start s := s = {}
  step := lifecycleStep

/-- The client has no session and no `connect` on the way to one. -/
def RadioClient.Closed : RadioClient → Prop
  | .mqtt calls => calls.client.session.mosq = none ∧ calls.connectAt = none
  | .udp calls => calls.client.running = false ∧ calls.connectAt = none

/-- The instruction replaces or destroys the object `connect_thread_` points to. -/
def Instr.dropsThread : Instr → Bool
  | .startThread | .releaseThread => true
  | _ => false

/-- No thread that was not joined is replaced or destroyed, and the client is closed when the
node's destructor begins. -/
def Orderly (s : Node) : Node.Action → Prop
  | .executor => ∀ instr rest, s.closing = none → s.deleting = none → s.script = instr :: rest →
      instr.dropsThread = true → s.connectThread = none
  | .destruct => ∀ c, s.radioClient = some c → (s.clients c).radio.Closed
  | _ => True

/-- The destructor has run to its end. -/
def Node.Over (s : Node) : Prop :=
  s.destroyed = true ∧ s.script = [] ∧ s.closing = none ∧ s.deleting = none

theorem lifecycle_shutdown_cases {s t : Node} (moved : lifecycleStep s .shutdown = some t) :
    s.Idle ∧ t = { s with script := shutdownScript } := by
  simp only [lifecycleStep, Option.ite_none_right_eq_some, Option.some.injEq] at moved
  exact ⟨moved.1, moved.2.symm⟩

/-! ## A node that was never configured -/

/-- Nothing but the destructor has run. -/
structure Bare (s : Node) : Prop where
  client : s.radioClient = none
  thread : s.connectThread = none
  closing : s.closing = none
  deleting : s.deleting = none
  connecting : s.connecting = false
  script : ∀ later ∈ s.script, later = .deleteClient ∨ later = .releaseThread
  untouched : ∀ c, (s.clients c).radio.Untouched

/-- The action is a configure. -/
def Node.Action.configures : Node.Action → Bool
  | .configure _ _ _ => true
  | _ => false

section Lifecycle

variable {s t : Node} {a : Node.Action}

theorem bare_start : Bare {} where
  client := rfl
  thread := rfl
  closing := rfl
  deleting := rfl
  connecting := rfl
  script later waits := by cases waits
  untouched _ := ⟨rfl, .inl rfl, rfl⟩

theorem Bare.callBack (bare : Bare s) {c : Nat} {answer : RadioClient → Option RadioClient}
    (serves : ∀ r answered, answer r = some answered → Serves s.script r answered)
    (moved : s.callBack c answer = some t) : Bare t := by
  obtain ⟨radio, served, rfl⟩ := callBack_serves serves moved
  exact ⟨bare.client, bare.thread, bare.closing, bare.deleting, bare.connecting, bare.script,
    fun d => (bare.untouched d).serves (serves_onClient s served d)⟩

/-- Any other step is orderly, and leaves the node bare. -/
theorem Bare.step (bare : Bare s) (other : a.configures = false)
    (moved : lifecycleStep s a = some t) : Orderly s a ∧ Bare t := by
  cases a with
  | configure => cases other
  | reconnect =>
      obtain ⟨-, points, -⟩ := reconnect_cases moved
      rw [bare.client] at points
      cases points
  | shutdown =>
      obtain ⟨-, rfl⟩ := lifecycle_shutdown_cases moved
      refine ⟨trivial, bare.client, bare.thread, bare.closing, bare.deleting, bare.connecting, ?_,
        bare.untouched⟩
      intro later waits
      cases waits
  | destruct =>
      obtain ⟨-, rfl⟩ := destruct_cases moved
      refine ⟨fun c points => ?_, bare.client, bare.thread, bare.closing, bare.deleting,
        bare.connecting, ?_, bare.untouched⟩
      · rw [bare.client] at points
        cases points
      · intro later waits
        simpa [Node.destructor] using waits
  | executor =>
      refine ⟨fun instr rest _ _ _ _ => bare.thread, ?_⟩
      rcases executorStep_cases moved with ⟨c, closing, -⟩ | ⟨c, -, deleting, -⟩ |
        ⟨instr, rest, -, -, script, executed⟩
      · rw [bare.closing] at closing
        cases closing
      · rw [bare.deleting] at deleting
        cases deleting
      · have later : ∀ later ∈ rest, later = .deleteClient ∨ later = .releaseThread :=
          fun later waits => bare.script later (script ▸ List.mem_cons_of_mem _ waits)
        rcases bare.script instr (script ▸ List.mem_cons_self) with rfl | rfl
        · simp only [Node.execute, bare.client, Option.some.injEq] at executed
          subst executed
          exact ⟨rfl, bare.thread, bare.closing, bare.deleting, bare.connecting, later,
            bare.untouched⟩
        · cases executed
          exact ⟨bare.client, rfl, bare.closing, bare.deleting, bare.connecting, later,
            bare.untouched⟩
  | thread succeeds =>
      refine ⟨trivial, ?_⟩
      rcases threadStep_cases moved with ⟨c, thread, -⟩ | ⟨c, thread, -⟩ | ⟨thread, -⟩ <;>
      · rw [bare.thread] at thread
        cases thread
  | connack c handle rc accepted => exact ⟨trivial, bare.callBack (fun _ _ => .connack) moved⟩
  | dropped c handle => exact ⟨trivial, bare.callBack (fun _ _ => .dropped) moved⟩
  | error c =>
      obtain ⟨-, rfl⟩ := error_cases moved
      exact ⟨trivial, bare.client, bare.thread, bare.closing, bare.deleting, bare.connecting,
        bare.script, bare.untouched⟩

/-! ## A node that was configured -/

/-- Wherever the callback joins or sets `connecting_`, it goes on to start a thread. -/
def leadsToStart : List Instr → Bool
  | [] => true
  | .setConnecting :: rest | .join :: rest => rest.contains .startThread && leadsToStart rest
  | _ :: rest => leadsToStart rest

/-- There is a thread, or one is about to be started. -/
def Tied (s : Node) : Prop := s.connectThread.isSome = true ∨ .startThread ∈ s.script

/-- A configure has begun and the destructor has not: either there is a thread, or one is about
to be started, or no client was told to connect and the callback is still to find that out. -/
structure Started (s : Node) : Prop where
  alive : s.destroyed = false
  leads : leadsToStart s.script = true
  kept : .releaseThread ∉ s.script
  thread : Tied s ∨ s.connecting = false ∧ (∀ c, (s.clients c).radio.Untouched) ∧
    (.testConnecting ∈ s.script ∨ .testConnected ∈ s.script)

/-- The destructor runs, and there is a thread it is still to release. -/
structure Doomed (s : Node) : Prop where
  dead : s.destroyed = true
  thread : s.connectThread.isSome = true
  script : ∀ later ∈ s.script, later = .deleteClient ∨ later = .releaseThread
  due : .releaseThread ∈ s.script

/-- With nothing left of a callback there is a thread. -/
theorem Started.thread_of_idle (started : Started s) (ended : s.script = []) :
    s.connectThread.isSome = true := by
  have thread := started.thread
  simp only [Tied, ended, List.not_mem_nil, or_false, and_false] at thread
  exact thread

/-- A callback begins on a node that has a thread. -/
theorem Started.begin (started : Started s) (ended : s.script = []) {config : Config}
    {script : List Instr} (leads : leadsToStart script = true)
    (kept : .releaseThread ∉ script) :
    Started { s with config := config, script := script } :=
  ⟨started.alive, leads, kept, .inl (.inl (started.thread_of_idle ended))⟩

/-- The first configure begins. -/
theorem Bare.configure (bare : Bare s) (alive : s.destroyed = false) (config : Config)
    (path : String) (file : WaveFile) :
    Started { s with config := config, script := Node.handleOnConfigure path file } where
  alive := alive
  leads := rfl
  kept := by simp [Node.handleOnConfigure, Node.preSpin]
  thread := .inr ⟨bare.connecting, bare.untouched,
    .inl (by simp [Node.handleOnConfigure, Node.preSpin])⟩

theorem leadsToStart_tail {instr : Instr} {rest : List Instr}
    (leads : leadsToStart (instr :: rest) = true) : leadsToStart rest = true := by
  cases instr with
  | setConnecting | join => exact (Bool.and_eq_true_iff.mp leads).2
  | _ => exact leads

/-- What is put in front of a callback starts a thread where it joins. -/
theorem Does.leadsToStart {instr : Instr} (does : Does s instr t)
    (leads : Driver.leadsToStart s.script = true) : Driver.leadsToStart t.script = true := by
  cases does with
  | aside _ frame =>
      rw [frame.script]
      exact leads
  | createRadioClient =>
      rw [(createRadioClient_frame s).script]
      exact leads
  | closeFirst | notConnecting => exact leads
  | notConnected => simpa [Driver.leadsToStart] using leads
  | _ => exact leads

/-- An instruction of a node that has a thread, or is about to start one. -/
theorem tied_of_does {instr : Instr} {rest : List Instr}
    (leads : leadsToStart (instr :: rest) = true) (kept : instr ≠ .releaseThread)
    (does : Does { s with script := rest } instr t)
    (tied : s.connectThread.isSome = true ∨ .startThread ∈ instr :: rest) : Tied t := by
  rcases does.thread with same | ⟨rfl, -, -⟩ | ⟨rfl, launched⟩ | ⟨rfl, -⟩
  · rcases tied with thread | waits
    · left
      rw [same]
      exact thread
    · rcases List.mem_cons.mp waits with rfl | later
      · cases does with
        | aside plain => cases plain
        | startThread => exact .inl rfl
      · exact .inr (does.tail later)
  · have starts : rest.contains .startThread = true := (Bool.and_eq_true_iff.mp leads).1
    exact .inr (does.tail (List.contains_iff_mem.mp starts))
  · left
    rw [launched]
    rfl
  · exact absurd rfl kept

/-- An instruction of a callback that is still to find out whether to connect, while no client was
told to: the tests lead to a thread. -/
theorem tied_of_tests {instr : Instr} {rest : List Instr}
    (leads : leadsToStart (instr :: rest) = true) (unstarted : .startThread ∉ instr :: rest)
    (does : Does { s with script := rest } instr t) (idle : s.connecting = false)
    (untouched : ∀ c, (s.clients c).radio.Untouched)
    (tests : .testConnecting ∈ instr :: rest ∨ .testConnected ∈ instr :: rest) :
    Tied t ∨ t.connecting = false ∧ (.testConnecting ∈ t.script ∨ .testConnected ∈ t.script) := by
  by_cases testing : instr = .testConnecting ∨ instr = .testConnected
  · rcases testing with rfl | rfl
    · cases does with
      | aside plain => cases plain
      | alreadyConnecting already =>
          rw [show s.connecting = true from already] at idle
          cases idle
      | notConnecting => exact .inr ⟨idle, .inr List.mem_cons_self⟩
    · cases does with
      | aside plain => cases plain
      | connected online =>
          simp only [Node.clientConnected] at online
          split at online
          · rename_i c points
            rw [(untouched c).connected] at online
            cases online
          · cases online
      | notConnected =>
          refine .inl (.inr ?_)
          simp
  · push Not at testing
    refine .inr ⟨?_, ?_⟩
    · rcases does.connecting with same | rfl | ⟨-, cleared⟩
      · exact same.trans idle
      · have starts : rest.contains .startThread = true := (Bool.and_eq_true_iff.mp leads).1
        have waits : Instr.startThread ∈ rest := List.contains_iff_mem.mp starts
        exact absurd (List.mem_cons_of_mem _ waits) unstarted
      · exact cleared
    · rcases tests with waits | waits
      · have later := (List.mem_cons.mp waits).resolve_left testing.1.symm
        exact .inl (does.tail later)
      · have later := (List.mem_cons.mp waits).resolve_left testing.2.symm
        exact .inr (does.tail later)

/-- A step that leaves the callback and the thread alone. -/
theorem Started.aside (started : Started s) (alive : t.destroyed = s.destroyed)
    (script : t.script = s.script) (thread : t.connectThread = s.connectThread)
    (connecting : t.connecting = s.connecting)
    (serves : ∀ c, Serves s.script (s.clients c).radio (t.clients c).radio) : Started t where
  alive := alive.trans started.alive
  leads := by
    rw [script]
    exact started.leads
  kept := by
    rw [script]
    exact started.kept
  thread := by
    rw [Tied, script, thread, connecting]
    rcases started.thread with tied | ⟨idle, untouched, tests⟩
    · exact .inl tied
    · exact .inr ⟨idle, fun c => (untouched c).serves (serves c), tests⟩

/-- One step of the executor. -/
theorem Started.executorStep (started : Started s) (moved : s.executorStep = some t) :
    Started t := by
  have serves := executorStep_serves moved
  rcases executorStep_cases moved with ⟨c, -, rfl⟩ | ⟨c, -, -, rfl⟩ |
    ⟨instr, rest, -, -, script, executed⟩
  · exact started.aside rfl rfl rfl rfl fun d => serves_stepClose s _ d
  · refine started.aside rfl rfl rfl rfl fun d => ?_
    rw [Node.finishDelete_radio]
    exact .nothing _
  · have does := execute_does executed
    have leads := started.leads
    rw [script] at leads
    have head : instr ≠ .releaseThread := by
      rintro rfl
      exact started.kept (script ▸ List.mem_cons_self)
    refine ⟨does.destroyed.trans started.alive, does.leadsToStart (leadsToStart_tail leads), ?_,
      ?_⟩
    · intro waits
      rcases does.script waits with before | pushed
      · exact started.kept (script ▸ List.mem_cons_of_mem _ before)
      · cases pushed
    · by_cases tied : s.connectThread.isSome = true ∨ .startThread ∈ instr :: rest
      · exact .inl (tied_of_does leads head does tied)
      · have thread := started.thread
        rw [Tied, script] at thread
        obtain ⟨idle, untouched, tests⟩ := thread.resolve_left tied
        have clean (c : Nat) : (t.clients c).radio.Untouched := by
          rcases serves c with ⟨served, -⟩ | ⟨-, -, served⟩
          · exact (untouched c).serves served
          · exact (RadioClient.untouched_newRadioClient s.config).serves served
        rcases tied_of_tests leads (fun waits => tied (.inr waits)) does idle untouched tests with
          starts | ⟨still, tests⟩
        · exact .inl starts
        · exact .inr ⟨still, clean, tests⟩

/-- A step of the connect thread leaves a thread. -/
theorem threadStep_isSome {succeeds : Bool} (moved : s.threadStep succeeds = some t) :
    t.connectThread.isSome = true ∧ t.destroyed = s.destroyed ∧ t.script = s.script := by
  rcases threadStep_cases moved with ⟨c, -, -, rfl⟩ | ⟨c, -, rfl⟩ | ⟨-, rfl⟩ <;>
    exact ⟨rfl, rfl, rfl⟩

theorem Started.callBack (started : Started s) {c : Nat}
    {answer : RadioClient → Option RadioClient}
    (serves : ∀ r answered, answer r = some answered → Serves s.script r answered)
    (moved : s.callBack c answer = some t) : Started t := by
  obtain ⟨radio, served, rfl⟩ := callBack_serves serves moved
  exact started.aside rfl rfl rfl rfl fun d => serves_onClient s served d

/-- Any step of a node that was configured leaves it so, or begins the destructor with a thread
in place. -/
theorem Started.step (started : Started s) (moved : lifecycleStep s a = some t) :
    Started t ∨ Doomed t := by
  cases a with
  | configure config path file =>
      obtain ⟨idle, rfl⟩ := configure_cases moved
      exact .inl (started.begin idle.1 rfl (by simp [Node.handleOnConfigure, Node.preSpin]))
  | reconnect =>
      obtain ⟨idle, -, rfl⟩ := reconnect_cases moved
      exact .inl (started.begin idle.1 rfl (by simp [Node.reconnectSrv, Node.preSpin]))
  | shutdown =>
      obtain ⟨idle, rfl⟩ := lifecycle_shutdown_cases moved
      exact .inl (started.begin idle.1 rfl (by simp [shutdownScript]))
  | destruct =>
      obtain ⟨idle, rfl⟩ := destruct_cases moved
      refine .inr ⟨rfl, started.thread_of_idle idle.1, fun later waits => ?_, ?_⟩
      · simpa [Node.destructor] using waits
      · simp [Node.destructor]
  | executor => exact .inl (started.executorStep moved)
  | thread succeeds =>
      obtain ⟨thread, destroyed, script⟩ := threadStep_isSome moved
      refine .inl ⟨destroyed.trans started.alive, ?_, ?_, .inl (.inl thread)⟩
      · rw [script]
        exact started.leads
      · rw [script]
        exact started.kept
  | connack c handle rc accepted => exact .inl (started.callBack (fun _ _ => .connack) moved)
  | dropped c handle => exact .inl (started.callBack (fun _ _ => .dropped) moved)
  | error c =>
      obtain ⟨-, rfl⟩ := error_cases moved
      exact .inl (started.aside rfl rfl rfl rfl fun _ => .nothing _)

/-! ## The destructor -/

/-- A node in its destructor takes up no callback. -/
theorem Doomed.busy (doomed : Doomed s) : ¬ s.Idle := by
  rintro ⟨-, -, -, alive⟩
  rw [doomed.dead] at alive
  cases alive

/-- An orderly step does not release the thread. -/
theorem Doomed.step (doomed : Doomed s) (orderly : Orderly s a)
    (moved : lifecycleStep s a = some t) : Doomed t := by
  cases a with
  | configure config path file => exact absurd (configure_cases moved).1 doomed.busy
  | reconnect => exact absurd (reconnect_cases moved).1 doomed.busy
  | shutdown => exact absurd (lifecycle_shutdown_cases moved).1 doomed.busy
  | destruct => exact absurd (destruct_cases moved).1 doomed.busy
  | executor =>
      rcases executorStep_cases moved with ⟨c, -, rfl⟩ | ⟨c, -, -, rfl⟩ |
        ⟨instr, rest, open_, undeleted, script, executed⟩
      · exact ⟨doomed.dead, doomed.thread, doomed.script, doomed.due⟩
      · exact ⟨doomed.dead, doomed.thread, doomed.script, doomed.due⟩
      · rcases doomed.script instr (script ▸ List.mem_cons_self) with rfl | rfl
        · have frame := execute_aside rfl executed
          have due := doomed.due
          rw [script, List.mem_cons] at due
          refine ⟨frame.destroyed.trans doomed.dead, ?_, fun later waits => ?_, ?_⟩
          · rw [frame.connectThread]
            exact doomed.thread
          · rw [frame.script] at waits
            exact doomed.script later (script ▸ List.mem_cons_of_mem _ waits)
          · rw [frame.script]
            exact due.resolve_left (by simp)
        · have joined := orderly _ rest open_ undeleted script rfl
          have thread := doomed.thread
          rw [joined] at thread
          cases thread
  | thread succeeds =>
      obtain ⟨thread, destroyed, script⟩ := threadStep_isSome moved
      exact ⟨destroyed.trans doomed.dead, thread, script ▸ doomed.script, script ▸ doomed.due⟩
  | connack c handle rc accepted =>
      obtain ⟨radio, -, rfl⟩ := callBack_serves (fun _ _ => .connack) moved
      exact ⟨doomed.dead, doomed.thread, doomed.script, doomed.due⟩
  | dropped c handle =>
      obtain ⟨radio, -, rfl⟩ := callBack_serves (fun _ _ => .dropped) moved
      exact ⟨doomed.dead, doomed.thread, doomed.script, doomed.due⟩
  | error c =>
      obtain ⟨-, rfl⟩ := error_cases moved
      exact ⟨doomed.dead, doomed.thread, doomed.script, doomed.due⟩

/-! ## Whole lifecycles -/

/-- A node that was configured comes to its end only with a step that is not orderly. -/
theorem not_orderly_of_started {actions : List Node.Action} (started : Started s)
    (ran : lifecycle.run s actions = some t) (ended : t.Over) :
    ¬ lifecycle.Complies Orderly s actions := by
  intro complies
  have kept (u : Node) (a : Node.Action) (v : Node) (bound : Started u ∨ Doomed u)
      (orderly : Orderly u a) (moved : lifecycleStep u a = some v) : Started v ∨ Doomed v := by
    rcases bound with started | doomed
    · exact started.step moved
    · exact .inr (doomed.step orderly moved)
  obtain ⟨destroyed, script, -⟩ := ended
  rcases System.Complies.invariant kept (.inl started) complies ran with started | doomed
  · rw [started.alive] at destroyed
    cases destroyed
  · have due := doomed.due
    rw [script] at due
    cases due

/-- From a bare node on, a lifecycle is orderly exactly when nothing in it is a configure. -/
theorem orderly_of_bare_iff {actions : List Node.Action} (bare : Bare s)
    (ran : lifecycle.run s actions = some t) (ended : t.Over) :
    lifecycle.Complies Orderly s actions ↔ ∀ a ∈ actions, a.configures = false := by
  induction actions generalizing s with
  | nil => exact iff_of_true trivial (by simp)
  | cons a rest ih =>
      obtain ⟨u, moved, later⟩ := System.run_cons ran
      cases configures : a.configures with
      | false =>
          obtain ⟨orderly, still⟩ := bare.step configures moved
          rw [List.forall_mem_cons, ← ih still later]
          constructor
          · intro complies
            exact ⟨configures, (complies u moved).2⟩
          · rintro ⟨-, onward⟩ v taken
            rw [moved] at taken
            cases taken
            exact ⟨orderly, onward⟩
      | true =>
          cases a with
          | configure config path file =>
              refine iff_of_false (fun complies => ?_) fun never => ?_
              · obtain ⟨idle, rfl⟩ := configure_cases moved
                have started := bare.configure idle.2.2.2 config path file
                exact not_orderly_of_started started later ended (complies _ moved).2
              · have other := never _ List.mem_cons_self
                cases other
          | _ => cases configures

/-- **Exactly which lifecycles are orderly.**  In a lifecycle of a node that ends with its
destruction, no thread that was not joined is replaced or destroyed, and the client is closed
before the members are destroyed, if and only if the node was never configured. -/
theorem orderly_iff_never_configured {actions : List Node.Action}
    (ran : lifecycle.run {} actions = some t) (ended : t.Over) :
    lifecycle.Complies Orderly {} actions ↔ ∀ a ∈ actions, a.configures = false :=
  orderly_of_bare_iff bare_start ran ended

/-- A node that is shut down and destroyed before it was configured. -/
def briefLifecycle : List Node.Action := [.shutdown, .destruct, .executor, .executor]

theorem briefLifecycle_orderly : lifecycle.Complies Orderly {} briefLifecycle := by
  have ran : lifecycle.run {} briefLifecycle =
      some { script := [], destroyed := true, terminated := false } := rfl
  have ended : Node.Over { script := [], destroyed := true, terminated := false } :=
    ⟨rfl, rfl, rfl, rfl⟩
  exact (orderly_iff_never_configured ran ended).mpr (by decide)

/-- A node that is configured once, connects, and is shut down and destroyed. -/
def plainLifecycle : List Node.Action :=
  .configure {} "share/v2x_ros_driver/etc/wave.json" (.accepted waveJson) ::
    List.replicate 11 Node.Action.executor ++ List.replicate 15 (Node.Action.thread true) ++
    [Node.Action.shutdown, .destruct] ++ List.replicate 11 Node.Action.executor

def destroyedNode : Node := (lifecycle.run {} plainLifecycle).getD {}

/-- Its connect thread is destroyed without having been joined. -/
theorem shutdown_leaves_thread_unjoined :
    ¬ ∀ actions t, lifecycle.run {} actions = some t → t.Over →
      lifecycle.Complies Orderly {} actions := by
  intro orderly
  have ran : lifecycle.run {} plainLifecycle = some destroyedNode := rfl
  have complies := orderly plainLifecycle destroyedNode ran ⟨rfl, rfl, rfl, rfl⟩
  obtain ⟨u, configured, later⟩ := System.run_cons ran
  cases configured
  have started := bare_start.configure rfl {} "share/v2x_ros_driver/etc/wave.json"
    (.accepted waveJson)
  exact not_orderly_of_started started later ⟨rfl, rfl, rfl, rfl⟩ (complies _ rfl).2

end Lifecycle

end V2xRosDriver.Driver
