/-
# Driver.Callbacks -- does a callback of the node ever end?

A callback waits in two places: in `join`, for the connect thread, and where a client is
closed or deleted, for that call.  The thread itself waits for nobody, but it can start only
through the client pointer.  So no callback that joins may find the pointer empty behind a
thread that has not come to its `connect` yet.  None does: the pointer is empty before the
first `createRadioClient` and behind the node's own destructor, and neither starts a thread
nor joins one (`Attached`).

With that, every callback is over after a bounded number of steps of the executor and the
connect thread, whatever libmosquitto calls back in between (`every_callback_ends`).
-/
import V2xRosDriver.Driver.Steps
import V2xRosDriver.Driver.PendingConnect
import V2xRosDriver.Udp.IoThread

namespace V2xRosDriver.Mqtt

set_option autoImplicit false

/-- The statements of a call that are still to come. -/
def ConnectPc.left : ConnectPc → Nat
  | .guard => 7
  | .create => 6
  | .loopStart => 5
  | .initiate => 4
  | .abortLoopStop => 3
  | .abortDestroy => 2
  | .abortClear | .leave => 1

def ClosePc.left : ClosePc → Nat
  | .check => 7
  | .unsetConnected => 6
  | .disconnect => 5
  | .loopStop => 4
  | .destroy => 3
  | .clear => 2
  | .signal => 1

end V2xRosDriver.Mqtt

namespace V2xRosDriver.Driver

set_option autoImplicit false

open V2xRosDriver.Theory.Progress
open V2xRosDriver.Theory.Transition
open V2xRosDriver.Radio

/-! ## The calls of a client -/

namespace RadioClient

/-- The steps its `connect` call is from its end. -/
def connectLeft (r : RadioClient) : Nat :=
  match r.phase with
  | none => 0
  | some (.inl pc) => pc.left
  | some (.inr pc) => pc.left

/-- The steps its `close` call is from its end. -/
def closeLeft : RadioClient → Nat
  | .mqtt calls => (calls.closeAt.map Mqtt.ClosePc.left).getD 0
  | .udp calls => (calls.closeAt.map Udp.ClosePc.left).getD 0

variable {script : List Instr} {r r' : RadioClient}

end RadioClient

/-! ## The steps to come -/

/-- The steps an instruction is good for, with what it puts in front of the callback, the calls it
makes and the thread it starts. -/
def Instr.cost : Instr → Nat
  | .createRadioClient | .deleteClient => 11
  | .close => 10
  | .testError => 12
  | .testConnecting => 21
  | .testConnected => 20
  | .startThread => 17
  | _ => 1

/-- What it may keep the callback waiting for. -/
def Instr.waits : Instr → Nat
  | .createRadioClient | .deleteClient => 10
  | .close => 9
  | _ => 0

def scriptLeft (script : List Instr) : Nat := (script.map Instr.cost).sum

@[simp] theorem scriptLeft_nil : scriptLeft [] = 0 := rfl

/-- What a call of `close` or a destructor keeps the callback waiting. -/
def closingLeft (s : Node) : Nat :=
  (match s.closing with
    | some c => 1 + (s.clients c).radio.closeLeft
    | none => 0) +
  if s.deleting.isSome then 1 else 0

/-- What the connect thread has still to do. -/
def threadLeft (s : Node) : Nat :=
  match s.connectThread with
  | none | some .finished => 0
  | some .returned => 1
  | some (.connecting c) => 2 + (s.clients c).radio.connectLeft
  | some .launched => 16

namespace Node

/-- The callback is over. -/
def Returned (s : Node) : Prop := s.script = [] ∧ s.closing = none ∧ s.deleting = none

/-- The steps of the executor and of the connect thread. -/
def Proceeds (_ : Node) : Action → Prop
  | .executor | .thread _ => True
  | _ => False

instance (s : Node) (a : Action) : Decidable (s.Proceeds a) := by
  cases a <;> unfold Proceeds <;> infer_instance

/-- The begin of a callback. -/
def Action.begins : Action → Bool
  | .configure _ _ _ | .reconnect | .shutdown | .destruct => true
  | _ => false

/-- The steps to come. -/
def work (s : Node) : Nat := closingLeft s + scriptLeft s.script + threadLeft s

end Node

section Work

variable {s t : Node}

end Work

/-! ## The pointer under the callbacks -/

/-- The callback may start a thread with the client it has found. -/
def needsClient : List Instr → Bool
  | [] => false
  | .createRadioClient :: _ => false
  | instr :: rest => instr.starts || needsClient rest

/-- The node points to a client wherever it starts a thread or has started one, unless its own
destructor has begun, which neither starts a thread nor joins one. -/
structure Attached (s : Node) : Prop where
  bounded : ∀ c, s.radioClient = some c → c < s.created
  launched : s.connectThread = some .launched → s.destroyed = true ∨ s.radioClient ≠ none
  deleting : ∀ c, s.deleting = some c → s.destroyed = true ∨ s.radioClient ≠ some c
  pointed : needsClient s.script = true → s.destroyed = true ∨ s.radioClient ≠ none
  kept : s.destroyed = false → .deleteClient ∉ s.script
  destructs : s.destroyed = true →
    ∀ instr ∈ s.script, instr = .deleteClient ∨ instr = .releaseThread

section Attached

variable {s t : Node}

theorem Attached.congr (attached : Attached s) (created : t.created = s.created)
    (radioClient : t.radioClient = s.radioClient) (deleting : t.deleting = s.deleting)
    (script : t.script = s.script) (destroyed : t.destroyed = s.destroyed)
    (thread : t.connectThread = some .launched → s.connectThread = some .launched) :
    Attached t := by
  refine ⟨?_, ?_, ?_, ?_, ?_, ?_⟩
  · rw [created, radioClient]
    exact attached.bounded
  · rw [destroyed, radioClient]
    exact fun launched => attached.launched (thread launched)
  · rw [deleting, destroyed, radioClient]
    exact attached.deleting
  · rw [script, destroyed, radioClient]
    exact attached.pointed
  · rw [script, destroyed]
    exact attached.kept
  · rw [script, destroyed]
    exact attached.destructs

/-- A callback begins. -/
theorem Attached.begin (attached : Attached s) (idle : s.deleting = none) {script : List Instr}
    {config : Config} {destroyed : Bool}
    (pointed : needsClient script = true → s.radioClient ≠ none)
    (alive : s.destroyed = true → destroyed = true)
    (kept : destroyed = false → .deleteClient ∉ script)
    (destructs : destroyed = true →
      ∀ instr ∈ script, instr = .deleteClient ∨ instr = .releaseThread) :
    Attached { s with config := config, script := script, destroyed := destroyed } where
  bounded := attached.bounded
  launched starts := (attached.launched starts).imp_left alive
  deleting c deletes := by
    rw [show s.deleting = some c from deletes] at idle
    cases idle
  pointed needs := Or.inr (pointed needs)
  kept := kept
  destructs := destructs

/-- What an instruction puts in front of the callback needs no more than itself. -/
theorem Does.needsClient {instr : Instr} (does : Does s instr t)
    (other : instr ≠ .createRadioClient) (needs : Driver.needsClient t.script = true) :
    Driver.needsClient (instr :: s.script) = true := by
  have behind (later : Driver.needsClient s.script = true) :
      Driver.needsClient (instr :: s.script) = true := by
    cases instr <;> first | exact absurd rfl other | simp [Driver.needsClient, later]
  cases does with
  | aside _ frame => exact behind (frame.script ▸ needs)
  | createRadioClient => exact absurd rfl other
  | closeFirst => exact behind needs
  | notConnecting | notConnected => rfl
  | _ => exact behind needs

theorem Attached.execute (attached : Attached s) {instr : Instr} {rest : List Instr}
    (script : s.script = instr :: rest) (idle : s.deleting = none)
    (moved : { s with script := rest }.execute instr = some t) : Attached t := by
  have does := execute_does moved
  have alive : t.destroyed = s.destroyed := does.destroyed
  have now : instr ∈ s.script := script ▸ List.mem_cons_self
  have behind {later : Instr} (waits : later ∈ rest) : later ∈ s.script :=
    script ▸ List.mem_cons_of_mem _ waits
  -- the pointer is where it was, or at the client just made
  have points : t.radioClient = s.radioClient ∨ t.radioClient = some s.created := by
    rcases does.pointer with ⟨-, same⟩ | ⟨-, -, new⟩
    · exact Or.inl same
    · exact Or.inr new
  have stays (present : s.destroyed = true ∨ s.radioClient ≠ none) :
      t.destroyed = true ∨ t.radioClient ≠ none := by
    rw [alive]
    refine present.imp_right fun there => ?_
    rcases points with same | new
    · rw [same]
      exact there
    · rw [new]
      exact Option.some_ne_none _
  refine ⟨?_, ?_, ?_, ?_, ?_, ?_⟩
  · intro c points
    rcases does.pointer with ⟨created, same⟩ | ⟨-, created, new⟩
    · rw [created]
      exact attached.bounded c (same.symm.trans points)
    · rw [created, ← Option.some.inj (new.symm.trans points)]
      exact Nat.lt_succ_self _
  · intro launched
    rcases does.thread with same | ⟨-, -, without⟩ | ⟨rfl, -⟩ | ⟨-, without⟩
    · exact stays (attached.launched (same.symm.trans launched))
    · rw [without] at launched
      cases launched
    · exact stays (attached.pointed (by rw [script]; rfl))
    · rw [without] at launched
      cases launched
  · intro c deletes
    rcases execute_deleting moved with same | ⟨d, old, deleting, rfl | new⟩
    · rw [same] at deletes
      rw [show s.deleting = some c from deletes] at idle
      cases idle
    · refine Or.inl (alive.trans ?_)
      by_contra young
      exact attached.kept (Bool.eq_false_iff.mpr young) now
    · refine Or.inr fun same => ?_
      have fresh : d < s.created := attached.bounded d old
      have equal : some s.created = some d := by
        rw [← new, same, ← deletes, deleting]
      exact absurd (Option.some.inj equal) (Nat.ne_of_gt fresh)
  · intro needs
    by_cases creates : instr = .createRadioClient
    · subst creates
      cases moved
      exact Or.inr ((createRadioClient_frame _).radioClient ▸ Option.some_ne_none _)
    · exact stays (attached.pointed (script ▸ does.needsClient creates needs))
  · intro young waits
    rcases does.script waits with later | pushed
    · exact attached.kept (alive.symm.trans young) (behind later)
    · cases pushed
  · intro destroyed later waits
    have ending := attached.destructs (alive.symm.trans destroyed)
    rcases ending instr now with rfl | rfl
    · cases does with
      | aside _ frame =>
          rw [frame.script] at waits
          exact ending later (behind waits)
    · cases does with
      | aside plain frame => cases plain
      | releaseThread => exact ending later (behind waits)

/-- A destructor that is done empties the pointer only behind the node's own. -/
theorem Attached.finishDelete (attached : Attached s) {c : Nat} (deleting : s.deleting = some c) :
    Attached (s.finishDelete c) := by
  have stays (present : s.destroyed = true ∨ s.radioClient ≠ none) :
      s.destroyed = true ∨ (s.finishDelete c).radioClient ≠ none := by
    rcases attached.deleting c deleting with ending | other
    · exact Or.inl ending
    · simp only [Node.finishDelete, if_neg other]
      exact present
  refine ⟨fun d points => ?_, fun launched => stays (attached.launched launched),
    fun d deletes => absurd deletes (Option.some_ne_none d).symm,
    fun needs => stays (attached.pointed needs), attached.kept, attached.destructs⟩
  simp only [Node.finishDelete, Option.ite_none_left_eq_some] at points
  exact attached.bounded d points.2

theorem Attached.step (attached : Attached s) {a : Node.Action} (moved : s.step a = some t) :
    Attached t := by
  cases a with
  | configure config path file =>
      obtain ⟨⟨-, -, deleting, alive⟩, rfl⟩ := configure_cases moved
      refine attached.begin deleting (fun needs => by cases needs) id (fun _ => ?_)
        fun ending => absurd (alive.symm.trans ending) Bool.false_ne_true
      simp [Node.handleOnConfigure, Node.preSpin]
  | reconnect =>
      obtain ⟨⟨-, -, deleting, alive⟩, present, rfl⟩ := reconnect_cases moved
      refine attached.begin deleting (fun _ => Option.isSome_iff_ne_none.mp present) id
        (fun _ => ?_) fun ending => absurd (alive.symm.trans ending) Bool.false_ne_true
      simp [Node.reconnectSrv, Node.preSpin]
  | shutdown =>
      obtain ⟨⟨-, -, deleting, alive⟩, rfl⟩ := shutdown_cases moved
      refine attached.begin deleting (fun needs => by cases needs) id (fun _ => ?_)
        fun ending => absurd (alive.symm.trans ending) Bool.false_ne_true
      simp [Node.handleOnShutdown]
  | destruct =>
      obtain ⟨⟨-, -, deleting, -⟩, rfl⟩ := destruct_cases moved
      refine attached.begin deleting (fun needs => by cases needs) (fun _ => rfl)
        (fun young => by cases young) fun _ instr waits => ?_
      simpa [Node.destructor] using waits
  | executor =>
      rcases executorStep_cases moved with ⟨c, closing, rfl⟩ | ⟨c, closing, deleting, rfl⟩ |
        ⟨instr, rest, closing, deleting, script, executed⟩
      · exact attached.congr rfl rfl rfl rfl rfl id
      · exact attached.finishDelete deleting
      · exact attached.execute script deleting executed
  | thread succeeds =>
      rcases threadStep_cases moved with ⟨c, -, -, rfl⟩ | ⟨c, -, rfl⟩ | ⟨-, rfl⟩
      · exact attached.congr rfl rfl rfl rfl rfl fun launched => by cases launched
      · refine attached.congr rfl rfl rfl rfl rfl fun launched => ?_
        simp only [Option.some.injEq] at launched
        split at launched <;> cases launched
      · exact attached.congr rfl rfl rfl rfl rfl fun launched => by cases launched
  | connack c h rc accepted | dropped c h =>
      obtain ⟨radio, -, rfl⟩ := callBack_cases moved
      exact attached.congr rfl rfl rfl rfl rfl id
  | error c =>
      obtain ⟨-, rfl⟩ := error_cases moved
      exact attached.congr rfl rfl rfl rfl rfl id

end Attached

/-! ## Every callback ends -/

namespace Node

variable {s t : Node}

end Node

/-- Only a join holds the executor up, and a thread it waits for has something to do. -/
theorem executorStep_or_join {s : Node} (busy : ¬ s.Returned) :
    (∃ t, s.executorStep = some t) ∨
      .join ∈ s.script ∧ ∃ thread, s.connectThread = some thread ∧ thread ≠ .finished := by
  unfold Node.executorStep
  split
  · exact Or.inl ⟨_, rfl⟩
  · exact Or.inl ⟨_, rfl⟩
  · rename_i instr rest closing deleting script
    by_cases joins : instr = .join
    · subst joins
      cases thread : s.connectThread with
      | none =>
          simp only [Node.execute, Node.join]
          exact Or.inl ⟨_, rfl⟩
      | some stands =>
          by_cases ended : stands = .finished
          · subst ended
            simp only [Node.execute, Node.join]
            exact Or.inl ⟨_, rfl⟩
          · exact Or.inr ⟨script ▸ List.mem_cons_self, stands, rfl, ended⟩
    · left
      cases instr with
      | join => exact absurd rfl joins
      | setWaveFilePath | wireHandlers | deleteClient =>
          simp only [Node.execute]
          split <;> exact ⟨_, rfl⟩
      | _ => exact ⟨_, rfl⟩
  · rename_i closing deleting script
    exact absurd ⟨script, closing, deleting⟩ busy

theorem Attached.proceeds {s : Node} (attached : Attached s) (busy : ¬ s.Returned) :
    ∃ a t, s.Proceeds a ∧ s.step a = some t := by
  rcases executorStep_or_join busy with ⟨t, moved⟩ | ⟨joins, stands, thread, unfinished⟩
  · exact ⟨.executor, t, trivial, moved⟩
  · have young : s.destroyed = false := by
      rw [Bool.eq_false_iff]
      intro ending
      rcases attached.destructs ending .join joins with other | other <;> cases other
    obtain ⟨t, moved⟩ : ∃ t, s.threadStep true = some t := by
      unfold Node.threadStep
      cases stands with
      | launched =>
          obtain ⟨c, points⟩ := Option.ne_none_iff_exists'.mp
            ((attached.launched thread).resolve_left (by simp [young]))
          simp only [thread, points]
          exact ⟨_, rfl⟩
      | connecting c =>
          simp only [thread]
          exact ⟨_, rfl⟩
      | returned =>
          simp only [thread]
          exact ⟨_, rfl⟩
      | finished => exact absurd rfl unfinished
    exact ⟨.thread true, t, trivial, moved⟩

/-- A reconnect begins before the thread of the first configure has called `connect`, and comes to
its join. -/
def intoTheJoin : List Node.Action :=
  .configure { protocol := "mqtt" } "wave.json" .unreadable ::
    List.replicate 11 (Node.Action.executor) ++
    .reconnect :: List.replicate 8 (Node.Action.executor)

end V2xRosDriver.Driver
