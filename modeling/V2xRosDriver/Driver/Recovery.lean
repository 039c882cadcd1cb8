/-
# Driver.Recovery -- what does `pre_spin` close?

An error that a client reports stays in `radio_client_error_` until the next callback that calls
`pre_spin`, which closes the client because of it.  By then there is nothing to close:
`reconnectSrv` has closed the client itself, and `handle_on_configure` has replaced it.  Whenever
`pre_spin` is called, the client rests; it still rests when the `close` of the recovery is called,
whoever has moved in between; and that `close` returns at its check, with the client as it was
(`recovery_finds_rest`).

The recovery is known by its script: `close` and `clearError` in front of the test of
`connecting` stand nowhere in a callback as it begins (`Plain`), only behind a `testError` that
has found an error.
-/
import V2xRosDriver.Driver.Silence

namespace V2xRosDriver.Driver

set_option autoImplicit false

open V2xRosDriver.Theory.Transition
open V2xRosDriver.Radio

open RadioClient (letGo)

/-! ## Where the recovery stands in a script -/

/-- No part of the script is the end of a recovery. -/
def Plain (script : List Instr) : Prop := ¬ [.clearError, .testConnecting] <:+: script

section Plain

variable {instr : Instr} {rest : List Instr}

theorem Plain.tail (plain : Plain (instr :: rest)) : Plain rest :=
  fun within => plain (within.trans (List.suffix_cons instr rest).isInfix)

theorem Plain.cons (other : instr ≠ .clearError) (plain : Plain rest) : Plain (instr :: rest) := by
  rw [Plain, List.infix_cons_iff, List.cons_prefix_cons]
  rintro (⟨same, -⟩ | within)
  · exact other same.symm
  · exact plain within

theorem Plain.clearError (plain : Plain rest) (other : ∀ later, rest ≠ .testConnecting :: later) :
    Plain (.clearError :: rest) := by
  rw [Plain, List.infix_cons_iff, List.cons_prefix_cons]
  rintro (⟨-, later, tests⟩ | within)
  · exact other later tests.symm
  · exact plain within

theorem plain_handleOnConfigure (path : String) (file : WaveFile) :
    Plain (Node.handleOnConfigure path file) := by
  simp [Plain, Node.handleOnConfigure, Node.preSpin, List.infix_cons_iff]

theorem plain_reconnectSrv : Plain Node.reconnectSrv := by
  simp [Plain, Node.reconnectSrv, Node.preSpin, List.infix_cons_iff]

theorem plain_handleOnShutdown : Plain Node.handleOnShutdown := by
  simp [Plain, Node.handleOnShutdown, List.infix_cons_iff]

theorem plain_destructor : Plain Node.destructor := by
  simp [Plain, Node.destructor, List.infix_cons_iff]

end Plain

/-! ## The recovery and whoever moves beside it -/

/-- Whether the callback is in a recovery, and how far that has come. -/
inductive Recovery (s : Node) : Prop
  | elsewhere (plain : Plain s.script)
  | called {rest : List Instr}
      (script : s.script = .close :: .clearError :: .testConnecting :: rest)
      (plain : Plain rest) (open_ : s.closing = none)
      (rests : ∀ c, s.radioClient = some c → (s.clients c).radio.Resting)
  | closes {rest : List Instr} (script : s.script = .clearError :: .testConnecting :: rest)
      (plain : Plain rest) {c : Nat} (closing : s.closing = some c) {before : RadioClient}
      (rests : before.Resting) (open_ : before.isClosing = false)
      (radio : (s.clients c).radio = before.beginClose)
  | closed {rest : List Instr} (script : s.script = .clearError :: .testConnecting :: rest)
      (plain : Plain rest) (open_ : s.closing = none)

section Recovery

variable {s t : Node}

/-- The script of a node while it runs callbacks. -/
theorem Plain.execute {instr : Instr} {rest : List Instr} (plain : Plain (instr :: rest))
    (moved : { s with script := rest }.execute instr = some t) :
    Plain t.script ∨ instr = .testError ∧ (∃ later, rest = .testConnecting :: later) ∧
      t = { s with script := .close :: .clearError :: rest } := by
  have onward := plain.tail
  cases execute_does moved with
  | aside _ frame => exact .inl (frame.script ▸ onward)
  | createRadioClient =>
      have same := (createRadioClient_frame { s with script := rest }).script
      rw [same]
      exact .inl onward
  | closeFirst =>
      by_cases tests : ∃ later, rest = .testConnecting :: later
      · exact .inr ⟨rfl, tests, rfl⟩
      · exact .inl (.cons (by simp) (onward.clearError (not_exists.mp tests)))
  | notConnecting => exact .inl (.cons (by simp) onward)
  | notConnected => exact .inl (.cons (by simp) (.cons (by simp) (.cons (by simp) onward)))
  | _ => exact .inl onward

/-- One instruction more. -/
theorem Recovery.execute (kept : Kept s) (hushed : Hushed s) (recovery : Recovery s)
    {instr : Instr} {rest : List Instr} (script : s.script = instr :: rest)
    (open_ : s.closing = none) (moved : { s with script := rest }.execute instr = some t) :
    Recovery t := by
  cases recovery with
  | elsewhere plain =>
      rw [script] at plain
      rcases plain.execute moved with plain | ⟨rfl, ⟨later, rfl⟩, rfl⟩
      · exact .elsewhere plain
      · have waits : awaitsFresh s.script = true := by
          rw [script]
          rfl
        refine .called rfl plain.tail.tail open_ fun c points => ?_
        have known := hushed.awaited waits c points
        rw [open_] at known
        exact known.resolve_left (by simp)
  | called closing plain _ rests =>
      obtain ⟨rfl, rfl⟩ := List.cons.inj (script.symm.trans closing)
      cases moved
      rw [Node.close]
      split
      · rename_i c points
        refine .closes rfl plain rfl (rests c points) ?_ (s.onClient_self c _)
        rw [Bool.eq_false_iff]
        intro running
        rw [kept.closes c running] at open_
        cases open_
      · exact .closed rfl plain open_
  | closes _ _ closing =>
      rw [closing] at open_
      cases open_
  | closed clears plain =>
      obtain ⟨rfl, rfl⟩ := List.cons.inj (script.symm.trans clears)
      cases moved
      exact .elsewhere (plain.cons (by simp))

/-- The `close` of a recovery returns at its check and leaves the client as it was. -/
theorem stepClose_of_recovery {c : Nat} {before : RadioClient} (rests : before.Resting)
    (open_ : before.isClosing = false) (radio : (s.clients c).radio = before.beginClose) :
    (s.stepClose c).closing = none ∧ ((s.stepClose c).clients c).radio = before := by
  have here : ((s.onClient c RadioClient.stepClose).clients c).radio = before := by
    rw [s.onClient_self, radio, rests.close open_]
  refine ⟨?_, here⟩
  rw [Node.stepClose]
  simp only [here, open_]
  rfl

theorem Recovery.executorStep (kept : Kept s) (hushed : Hushed s) (recovery : Recovery s)
    (moved : s.executorStep = some t) : Recovery t := by
  rcases executorStep_cases moved with ⟨c, closing, rfl⟩ | ⟨c, open_, deleting, rfl⟩ |
    ⟨instr, rest, open_, -, script, executed⟩
  · cases recovery with
    | elsewhere plain => exact .elsewhere plain
    | called _ _ open_ | closed _ _ open_ =>
        rw [closing] at open_
        cases open_
    | closes script plain closes rests open_ radio =>
        obtain rfl := Option.some.inj (closing.symm.trans closes)
        exact .closed script plain (stepClose_of_recovery rests open_ radio).1
  · cases recovery with
    | elsewhere plain => exact .elsewhere plain
    | called script plain _ rests =>
        refine .called script plain open_ fun d points => ?_
        rw [Node.finishDelete_radio]
        apply rests d
        simp only [Node.finishDelete] at points
        split at points
        · cases points
        · exact points
    | closes _ _ closing =>
        rw [closing] at open_
        cases open_
    | closed script plain => exact .closed script plain open_
  · exact recovery.execute kept hushed script open_ executed

/-- Whoever else changes a client in a way that is mild, and leaves alone one that is being closed
at rest but for a `connect` that returns. -/
theorem Recovery.aside (recovery : Recovery s) {change : RadioClient → RadioClient} {d : Nat}
    (mild : (s.clients d).radio.Mild (change (s.clients d).radio))
    (beside : ∀ before : RadioClient, before.Resting → before.isClosing = false →
      (s.clients d).radio = before.beginClose →
      ∃ after : RadioClient, after.Resting ∧ after.isClosing = false ∧
        change (s.clients d).radio = after.beginClose)
    (clients : t.clients = (s.onClient d change).clients) (script : t.script = s.script)
    (closing : t.closing = s.closing) (client : t.radioClient = s.radioClient) : Recovery t := by
  cases recovery with
  | elsewhere plain => exact .elsewhere (script ▸ plain)
  | called calls plain open_ rests =>
      refine .called (script.trans calls) plain (closing.trans open_) fun c points => ?_
      rw [clients]
      exact (mild_onClient mild c).resting (rests c (client ▸ points))
  | @closes rest clears plain c closes before rests open_ radio =>
      by_cases same : c = d
      · subst same
        obtain ⟨after, rests, open_, radio⟩ := beside before rests open_ radio
        refine .closes (script.trans clears) plain (closing.trans closes) rests open_ ?_
        rw [clients, s.onClient_self, radio]
      · refine .closes (script.trans clears) plain (closing.trans closes) rests open_ ?_
        rw [clients, s.onClient_ne same, radio]
  | closed clears plain open_ => exact .closed (script.trans clears) plain (closing.trans open_)

/-- While a `connect` is pending there is no recovery. -/
theorem Recovery.elsewhere_of_active (kept : Kept s) (recovery : Recovery s)
    (pending : active letGo s = true) : Plain s.script := by
  have harmless := kept.guarded.harmless pending
  cases recovery with
  | elsewhere plain => exact plain
  | called script | closes script | closed script =>
      rw [script] at harmless
      cases harmless

theorem Recovery.threadStep (kept : Kept s) (recovery : Recovery s) {succeeds : Bool}
    (moved : s.threadStep succeeds = some t) : Recovery t := by
  rcases threadStep_cases moved with ⟨c, thread, -, rfl⟩ | ⟨c, thread, rfl⟩ | ⟨-, rfl⟩
  · have pending : active letGo s = true := by simp [active, thread]
    have plain := recovery.elsewhere_of_active kept pending
    exact .elsewhere plain
  · by_cases pending : active letGo s = true
    · have plain := recovery.elsewhere_of_active kept pending
      exact .elsewhere plain
    · have leaving : letGo (s.clients c).radio.phase = true := by
        simpa [active, thread] using pending
      refine recovery.aside (RadioClient.mild_leave leaving) ?_ rfl rfl rfl rfl
      intro before rests open_ radio
      refine ⟨before.stepConnect succeeds, ?_, ?_, ?_⟩
      · rw [radio, RadioClient.phase_beginClose] at leaving
        exact (RadioClient.mild_leave leaving).resting rests
      · rw [RadioClient.isClosing_stepConnect, open_]
      · rw [radio, RadioClient.stepConnect_beginClose]
  · cases recovery with
    | elsewhere plain => exact .elsewhere plain
    | called script plain open_ rests => exact .called script plain open_ rests
    | closes script plain closing rests open_ radio =>
        exact .closes script plain closing rests open_ radio
    | closed script plain open_ => exact .closed script plain open_

/-- No callback of libmosquitto reaches a client at rest. -/
theorem Recovery.callBack (recovery : Recovery s) {c : Nat}
    {answer : RadioClient → Option RadioClient}
    (mild : ∀ r answered, answer r = some answered → r.Mild answered)
    (unheard : (s.clients c).radio.Resting → answer (s.clients c).radio = none)
    (moved : s.callBack c answer = some t) : Recovery t := by
  obtain ⟨radio, answered, rfl⟩ := callBack_cases moved
  refine recovery.aside (mild _ _ answered) ?_ rfl rfl rfl rfl
  intro before rests _ closing
  have resting : (s.clients c).radio.Resting := by
    rw [closing]
    exact (RadioClient.mild_beginClose before).resting rests
  rw [unheard resting] at answered
  cases answered

theorem Recovery.step (kept : Kept s) (hushed : Hushed s) (recovery : Recovery s)
    {a : Node.Action} (moved : s.step a = some t) : Recovery t := by
  cases a with
  | configure config path file =>
      obtain ⟨-, rfl⟩ := configure_cases moved
      exact .elsewhere (plain_handleOnConfigure path file)
  | reconnect =>
      obtain ⟨-, -, rfl⟩ := reconnect_cases moved
      exact .elsewhere plain_reconnectSrv
  | shutdown =>
      obtain ⟨-, rfl⟩ := shutdown_cases moved
      exact .elsewhere plain_handleOnShutdown
  | destruct =>
      obtain ⟨-, rfl⟩ := destruct_cases moved
      exact .elsewhere plain_destructor
  | executor => exact recovery.executorStep kept hushed moved
  | thread succeeds => exact recovery.threadStep kept moved
  | connack c handle rc accepted =>
      refine recovery.callBack (fun _ _ => RadioClient.mild_connack) (fun resting => ?_) moved
      exact (resting.uncalled (kept.owned c) handle).1 rc accepted
  | dropped c handle =>
      refine recovery.callBack (fun _ _ => RadioClient.mild_dropped) (fun resting => ?_) moved
      exact (resting.uncalled (kept.owned c) handle).2
  | error c =>
      obtain ⟨-, rfl⟩ := error_cases moved
      cases recovery with
      | elsewhere plain => exact .elsewhere plain
      | called script plain open_ rests => exact .called script plain open_ rests
      | closes script plain closing rests open_ radio =>
          exact .closes script plain closing rests open_ radio
      | closed script plain open_ => exact .closed script plain open_

theorem recovery_of_reachable (reached : system.ReachableUnder (Undisturbed letGo) s) :
    Recovery s := by
  induction reached with
  | start first =>
      obtain rfl := first
      exact .elsewhere (by simp [Plain])
  | step before _ moved recovery =>
      exact recovery.step (kept_of_reachable before) (hushed_of_reachable before) moved

end Recovery

/-! ## What the recovery finds -/

/-- The client rests wherever a recovery is called or calls `close`; and that `close` is over with
its first step, and the client is the one it was called on. -/
structure FindsRest (s : Node) : Prop where
  called : ∀ rest c, s.script = Node.preSpin ++ rest → s.closing = none → s.radioClient = some c →
    (s.clients c).radio.Resting
  closing : ∀ rest c, s.script = .close :: .clearError :: .testConnecting :: rest →
    s.radioClient = some c → s.closing = none ∧ (s.clients c).radio.Resting
  closed : ∀ rest c t, s.script = .clearError :: .testConnecting :: rest → s.closing = some c →
    s.step .executor = some t →
    ∃ before : RadioClient, before.Resting ∧ before.isClosing = false ∧
      (s.clients c).radio = before.beginClose ∧ t.closing = none ∧ (t.clients c).radio = before

/-- **The recovery finds nothing to close.**  Whenever `pre_spin` is called, the client it finds has
no handle, no I/O thread and no `connect` on the way to one.  So it is when the `close` it makes of
an error that was reported is called; and this `close` returns at its check. -/
theorem recovery_finds_rest {s : Node} (reached : system.ReachableUnder (Undisturbed letGo) s) :
    FindsRest s := by
  have recovery := recovery_of_reachable reached
  refine ⟨?_, ?_, ?_⟩
  · intro rest c called open_ points
    have known := (hushed_of_reachable reached).awaited (by rw [called]; rfl) c points
    rw [open_] at known
    exact known.resolve_left (by simp)
  · intro rest c calls points
    cases recovery with
    | elsewhere plain =>
        refine absurd (List.infix_cons_iff.mpr (.inr ⟨[], rest, ?_⟩)) (calls ▸ plain)
        rfl
    | called _ _ open_ rests => exact ⟨open_, rests c points⟩
    | closes script | closed script => cases script.symm.trans calls
  · intro rest c t clears closes moved
    obtain rfl : s.stepClose c = t := by
      simpa [Node.step, Node.executorStep, closes] using moved
    cases recovery with
    | elsewhere plain => exact absurd ⟨[], rest, rfl⟩ (clears ▸ plain)
    | called script => cases script.symm.trans clears
    | @closes _ _ _ d closing before rests open_ radio =>
        obtain rfl := Option.some.inj (closing.symm.trans closes)
        obtain ⟨returned, same⟩ := stepClose_of_recovery rests open_ radio
        exact ⟨before, rests, open_, radio, returned, same⟩
    | closed _ _ open_ =>
        rw [closes] at open_
        cases open_

/-- A send fails, and the node is configured again. -/
def failThenConfigure : List Node.Action :=
  connectUdp ++ [.error 0, .configure {} "share/v2x_ros_driver/etc/wave.json"
    (.accepted waveJson)] ++ List.replicate 10 Node.Action.executor

def recoveringNode : Node := (system.runUnder (Undisturbed letGo) {} failThenConfigure).getD {}

/-- Two steps later the `close` of the recovery runs. -/
def closingNode : Node :=
  (system.runUnder (Undisturbed letGo) recoveringNode (List.replicate 2 .executor)).getD {}

theorem recoveringNode_finds_rest :
    recoveringNode.radioClientError = true ∧ (recoveringNode.clients 1).radio.Resting ∧
      closingNode.closing = some 1 ∧ FindsRest closingNode := by
  have succeeds : (system.runUnder (Undisturbed letGo) {} failThenConfigure).isSome = true := rfl
  have reached : system.ReachableUnder (Undisturbed letGo) recoveringNode :=
    System.reachableUnder_getD (.start rfl) succeeds {}
  have onward : (system.runUnder (Undisturbed letGo) recoveringNode
      (List.replicate 2 .executor)).isSome = true := rfl
  have rests := (recovery_finds_rest reached).called _ 1 (show _ = Node.preSpin ++ _ from rfl) rfl
    rfl
  exact ⟨rfl, rests, rfl, recovery_finds_rest (System.reachableUnder_getD reached onward {})⟩

end V2xRosDriver.Driver
