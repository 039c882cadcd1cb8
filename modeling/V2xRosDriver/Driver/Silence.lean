/-
# Driver.Silence -- when can nothing move any more?

Once `handle_on_shutdown` has returned, nothing but a callback that begins can move until the
node is configured or told to reconnect: no connect thread, no loop thread of libmosquitto, no
I/O thread (`silent_after_shutdown`).  It joins the thread first and closes the client then, and
all clients before that one were closed when they were replaced.
-/
import V2xRosDriver.Driver.RestInvariant
import V2xRosDriver.Driver.Callbacks

namespace V2xRosDriver.Driver

set_option autoImplicit false

open V2xRosDriver.Theory.Transition
open V2xRosDriver.Radio

open RadioClient (letGo)

/-! ## After a shutdown -/

namespace Node

/-- An error comes out of the I/O thread of a client. -/
def Raised (s : Node) : Action → Prop
  | .error c => (s.clients c).radio.hasIoThread = true
  | _ => True

/-- The entry points that make the node connect. -/
def Action.connects : Action → Bool
  | .configure _ _ _ | .reconnect => true
  | _ => false

/-- Nothing moves: all that can happen is that a callback begins. -/
def Silent (s : Node) : Prop :=
  ∀ a : Action, a.begins = false → s.Raised a → s.step a = none

end Node

/-- The node is told neither to connect nor to destroy itself during a `connect`. -/
def Retired (s : Node) (a : Node.Action) : Prop :=
  Undisturbed letGo s a ∧ a.connects = false

instance (s : Node) (a : Node.Action) : Decidable (Retired s a) :=
  inferInstanceAs (Decidable (_ ∧ _))

/-- A node from the begin of a `handle_on_shutdown` on. -/
def shuttingDown : System Node Node.Action where
  start t := ∃ s, system.ReachableUnder (Undisturbed letGo) s ∧ s.step .shutdown = some t
  step := Node.step

/-- How far the shutdown has come; behind it the node may be destroyed. -/
inductive Ending (s : Node) : Prop
  | joins (script : s.script = Node.handleOnShutdown)
  | closes (joined : s.connectThread = none) (script : s.script = [.close])
  | closed (joined : s.connectThread = none)
      (script : ∀ later ∈ s.script, later = .deleteClient ∨ later = .releaseThread)
      (quiet : ∀ c, s.closing = some c ∨ (s.clients c).radio.Resting)

section Ending

variable {s t : Node} {a : Node.Action}

/-- A `close` begins while every other client rests. -/
theorem quiet_beginClose {c : Nat}
    (quiet : ∀ d, d ≠ c → (s.clients d).radio.Resting)
    (clients : t.clients = (s.onClient c .beginClose).clients) (closing : t.closing = some c)
    (d : Nat) : t.closing = some d ∨ (t.clients d).radio.Resting := by
  by_cases same : d = c
  · exact .inl (closing.trans (congrArg some same.symm))
  · rw [clients, Node.onClient_ne s same]
    exact .inr (quiet d same)

theorem Ending.execute (hushed : Hushed s) (ending : Ending s) {instr : Instr}
    {rest : List Instr} (script : s.script = instr :: rest) (open_ : s.closing = none)
    (moved : { s with script := rest }.execute instr = some t) : Ending t := by
  have others (c : Nat) (apart : s.radioClient ≠ some c) : (s.clients c).radio.Resting := by
    have known := hushed.others c apart
    rw [open_] at known
    exact known.resolve_left (by simp)
  cases ending with
  | joins joining =>
      obtain ⟨rfl, rfl⟩ := List.cons.inj (script.symm.trans joining)
      simp only [Node.execute, Node.join] at moved
      split at moved
      · rename_i without
        cases moved
        exact .closes without rfl
      · cases moved
        exact .closes rfl rfl
      · cases moved
  | closes joined closing =>
      obtain ⟨rfl, rfl⟩ := List.cons.inj (script.symm.trans closing)
      cases moved
      rw [Node.close]
      split
      · rename_i c points
        refine .closed joined (fun later waits => by cases waits) ?_
        refine @quiet_beginClose s _ c (fun d other => others d ?_) rfl rfl
        rw [show s.radioClient = some c from points]
        exact fun equal => other (Option.some.inj equal).symm
      · rename_i without
        refine .closed joined (fun later waits => by cases waits) fun c => .inr (others c ?_)
        rw [show s.radioClient = none from without]
        exact fun equal => by cases equal
  | closed joined destructs quiet =>
      have resting (c : Nat) : (s.clients c).radio.Resting := by
        have known := quiet c
        rw [open_] at known
        exact known.resolve_left (by simp)
      have later : ∀ later ∈ rest, later = .deleteClient ∨ later = .releaseThread :=
        fun later waits => destructs later (script ▸ List.mem_cons_of_mem _ waits)
      rcases destructs instr (script ▸ List.mem_cons_self) with rfl | rfl
      · simp only [Node.execute] at moved
        split at moved
        · rename_i c points
          cases moved
          exact .closed joined later
            (@quiet_beginClose s _ c (fun d _ => resting d) rfl rfl)
        · cases moved
          exact .closed joined later fun c => .inr (resting c)
      · cases moved
        exact .closed rfl later fun c => .inr (resting c)

/-- Whoever else moves leaves the callback and the end of the thread alone. -/
theorem Ending.aside (ending : Ending s) (script : t.script = s.script)
    (joined : s.connectThread = none → t.connectThread = none)
    (quiet : (∀ c, s.closing = some c ∨ (s.clients c).radio.Resting) →
      ∀ c, t.closing = some c ∨ (t.clients c).radio.Resting) : Ending t := by
  cases ending with
  | joins joining => exact .joins (script.trans joining)
  | closes without closing => exact .closes (joined without) (script.trans closing)
  | closed without destructs still =>
      refine .closed (joined without) ?_ (quiet still)
      rw [script]
      exact destructs

theorem Ending.callBack (ending : Ending s) {c : Nat}
    {answer : RadioClient → Option RadioClient}
    (mild : ∀ r answered, answer r = some answered → r.Mild answered)
    (moved : s.callBack c answer = some t) : Ending t := by
  obtain ⟨radio, answered, rfl⟩ := callBack_cases moved
  exact ending.aside rfl id fun quiet d =>
    (quiet d).imp_right (mild_onClient (mild _ _ answered) d).resting

theorem Ending.step (kept : Kept s) (hushed : Hushed s) (ending : Ending s)
    (allowed : Retired s a) (moved : s.step a = some t) : Ending t := by
  cases a with
  | configure | reconnect => cases allowed.2
  | shutdown =>
      obtain ⟨-, rfl⟩ := shutdown_cases moved
      exact .joins rfl
  | destruct =>
      obtain ⟨⟨ended, -⟩, rfl⟩ := destruct_cases moved
      cases ending with
      | joins script | closes _ script =>
          rw [script] at ended
          cases ended
      | closed joined _ quiet =>
          refine .closed joined (fun later waits => ?_) quiet
          simpa [Node.destructor] using waits
  | executor =>
      rcases executorStep_cases moved with ⟨c, closing, rfl⟩ | ⟨c, -, -, rfl⟩ |
        ⟨instr, rest, closing, -, script, executed⟩
      · exact ending.aside rfl id fun quiet d => (hushed.stepClose kept closing).2 d (quiet d)
      · refine ending.aside rfl id fun quiet d => ?_
        rw [Node.finishDelete_radio]
        exact quiet d
      · exact ending.execute hushed script closing executed
  | thread succeeds =>
      have stands : s.connectThread ≠ none := by
        intro without
        rw [Node.step, Node.threadStep, without] at moved
        cases moved
      cases ending with
      | joins script =>
          rcases threadStep_cases moved with ⟨c, -, -, rfl⟩ | ⟨c, -, rfl⟩ | ⟨-, rfl⟩ <;>
            exact .joins script
      | closes joined | closed joined => exact absurd joined stands
  | connack c handle rc accepted =>
      exact ending.callBack (fun _ _ => RadioClient.mild_connack) moved
  | dropped c handle => exact ending.callBack (fun _ _ => RadioClient.mild_dropped) moved
  | error c =>
      obtain ⟨-, rfl⟩ := error_cases moved
      exact ending.aside rfl id id

/-- A node that is shutting down is a node in one of its runs. -/
theorem reachable_of_shuttingDown (reached : shuttingDown.ReachableUnder Retired s) :
    system.ReachableUnder (Undisturbed letGo) s ∧ Ending s := by
  induction reached with
  | start first =>
      obtain ⟨before, run, moved⟩ := first
      obtain ⟨-, rfl⟩ := shutdown_cases moved
      exact ⟨.step (a := .shutdown) run (fun disturbs => by cases disturbs) moved, .joins rfl⟩
  | step _ allowed moved ih =>
      obtain ⟨run, ending⟩ := ih
      exact ⟨.step run allowed.1 moved,
        ending.step (kept_of_reachable run) (hushed_of_reachable run) allowed moved⟩

/-- **Silence after a shutdown.**  Whenever `handle_on_shutdown` has returned, and the node has not
been configured or told to reconnect since, there is no connect thread, none of the clients it ever
had has an I/O thread, and nothing can move but a callback that begins: no client hears from its
broker either. -/
theorem silent_after_shutdown (reached : shuttingDown.ReachableUnder Retired s)
    (returned : s.Returned) :
    s.connectThread = none ∧ (∀ c, (s.clients c).radio.hasIoThread = false) ∧ s.Silent := by
  obtain ⟨run, ending⟩ := reachable_of_shuttingDown reached
  have kept := kept_of_reachable run
  obtain ⟨script, open_, undeleted⟩ := returned
  cases ending with
  | joins waits | closes _ waits =>
      rw [script] at waits
      cases waits
  | closed joined _ quiet =>
      have resting (c : Nat) : (s.clients c).radio.Resting := by
        have known := quiet c
        rw [open_] at known
        exact known.resolve_left (by simp)
      refine ⟨joined, fun c => (resting c).hasIoThread, ?_⟩
      intro a other raised
      cases a with
      | configure | reconnect | shutdown | destruct => cases other
      | executor => simp [Node.step, Node.executorStep, script, open_, undeleted]
      | thread succeeds => simp [Node.step, Node.threadStep, joined]
      | connack c handle rc accepted =>
          simp [Node.step, Node.callBack, ((resting c).uncalled (kept.owned c) handle).1]
      | dropped c handle =>
          simp [Node.step, Node.callBack, ((resting c).uncalled (kept.owned c) handle).2]
      | error c =>
          have absent := (resting c).hasIoThread
          rw [show (s.clients c).radio.hasIoThread = true from raised] at absent
          cases absent

end Ending

/-- A UDP node is configured and connects. -/
def connectUdp : List Node.Action :=
  .configure {} "share/v2x_ros_driver/etc/wave.json" (.accepted waveJson) ::
    List.replicate 11 Node.Action.executor ++ List.replicate 15 (Node.Action.thread true)

def connectedUdpNode : Node := (system.runUnder (Undisturbed letGo) {} connectUdp).getD {}

theorem connectedUdpNode_reached :
    system.ReachableUnder (Undisturbed letGo) connectedUdpNode := by
  have succeeds : (system.runUnder (Undisturbed letGo) {} connectUdp).isSome = true := rfl
  exact System.reachableUnder_getD (.start rfl) succeeds {}

/-- It is shut down. -/
def stoppingNode : Node := (connectedUdpNode.step .shutdown).getD {}

def stoppedNode : Node :=
  (shuttingDown.runUnder Retired stoppingNode (List.replicate 10 .executor)).getD {}

theorem stoppedNode_silent : stoppedNode.Returned ∧ stoppedNode.connectThread = none ∧
    (∀ c, (stoppedNode.clients c).radio.hasIoThread = false) ∧ stoppedNode.Silent := by
  have start : shuttingDown.start stoppingNode := ⟨connectedUdpNode, connectedUdpNode_reached, rfl⟩
  have succeeds : (shuttingDown.runUnder Retired stoppingNode
      (List.replicate 10 .executor)).isSome = true := rfl
  have returned : stoppedNode.Returned := ⟨rfl, rfl, rfl⟩
  exact ⟨returned, silent_after_shutdown
    (System.reachableUnder_getD (.start start) succeeds {}) returned⟩

/-- A reconnect before the first connect thread has begun, both connects, and the shutdown. -/
def leakThenShutdown : List Node.Action :=
  configureMqtt ++ .reconnect :: List.replicate 8 Node.Action.executor ++
    List.replicate 7 (Node.Action.thread true) ++ List.replicate 2 Node.Action.executor ++
    List.replicate 7 (Node.Action.thread true) ++ .shutdown ::
    List.replicate 9 Node.Action.executor

/-- Without the condition a handle that no one closes calls back after the shutdown. -/
theorem leaked_handle_calls_back :
    ∃ s, system.Reachable s ∧ s.Returned ∧ s.connectThread = none ∧ ¬ s.Silent := by
  have succeeds : (system.run {} leakThenShutdown).isSome = true := rfl
  refine ⟨_, System.reachable_getD (.start rfl) succeeds {}, ⟨rfl, rfl, rfl⟩, rfl, ?_⟩
  intro silent
  have unheard := congrArg Option.isSome (silent (.dropped 0 0) rfl trivial)
  cases unheard

end V2xRosDriver.Driver
