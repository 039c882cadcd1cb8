/-
# Driver.Status -- whose error does the status service report?

`getStatusSrv` answers with the flag of the client the node points to and with the error the node
keeps.  The error stays until a callback clears it, while clients come and go: a client that is
replaced may still fail in its I/O thread after the node points to another.  Yet whenever the
service can be asked, an error it names was raised by the very client it speaks of
(`status_names_client`), since the callback that replaces a client clears the error behind that,
and the old client is closed by then.  An MQTT client raises no errors, so none is ever reported
of it.
-/
import V2xRosDriver.Driver.RestInvariant

namespace V2xRosDriver.Driver

set_option autoImplicit false

open V2xRosDriver.Theory.Transition
open V2xRosDriver.Radio

open RadioClient (letGo)

/-! ## The service -/

/-- The answer of a service that is only triggered. -/
structure TriggerResponse where
  success : Bool
  message : String
  deriving DecidableEq, Repr

/-- A node with what its status service can say of an error. -/
structure ReportingNode extends Node where
  /-- `radio_client_error_.message ()`. -/
  errorMessage : String := ""
  /-- The client whose signal set the error last; for the record. -/
  raisedBy : Option Nat := none

namespace ReportingNode

/-- The part of the status about the connection. -/
def statusLine (s : ReportingNode) (isConnected : Bool) : String :=
  "protocol=" ++ s.config.protocol ++ ", connected=" ++ (if isConnected then "true" else "false")

def getStatusSrv (s : ReportingNode) : TriggerResponse :=
  let isConnected := s.clientConnected
  { success := isConnected
    message :=
      if s.radioClientError then
        s.statusLine isConnected ++ ", last_error=" ++ s.errorMessage
      else s.statusLine isConnected }

/-! ## Its node -/

inductive Action where
  | node (a : Node.Action)
  | error (client : Nat) (message : String)

/-- One step.  A client raises `onError` from its I/O thread, and nowhere else. -/
def step (s : ReportingNode) : Action → Option ReportingNode
  | .node (.error _) => none
  | .node a => (s.toNode.step a).map fun node => { s with toNode := node }
  | .error c message =>
      if (s.clients c).radio.hasIoThread then
        (s.toNode.step (.error c)).map fun node =>
          { toNode := node, errorMessage := message, raisedBy := some c }
      else none

/-- A node from its construction on. -/
def system : System ReportingNode Action where
  start s := s = {}
  step := step

/-- A reconnect, a configure and the node's destructor begin only while no `connect` is still to
let go of its handle. -/
def Undisturbed (s : ReportingNode) : Action → Prop
  | .node a => Driver.Undisturbed letGo s.toNode a
  | .error _ _ => True

instance (s : ReportingNode) : (a : Action) → Decidable (s.Undisturbed a)
  | .node _ => inferInstanceAs (Decidable (Driver.Undisturbed _ _ _))
  | .error _ _ => inferInstanceAs (Decidable True)

variable {s t : ReportingNode}

theorem node_cases {a : Node.Action} (moved : s.step (.node a) = some t) :
    (∀ c, a ≠ .error c) ∧ ∃ node, s.toNode.step a = some node ∧ t = { s with toNode := node } := by
  cases a with
  | error => cases moved
  | _ =>
      refine ⟨nofun, ?_⟩
      obtain ⟨node, stepped, rfl⟩ := Option.map_eq_some_iff.mp moved
      exact ⟨node, stepped, rfl⟩

theorem raise_cases {c : Nat} {message : String} (moved : s.step (.error c message) = some t) :
    (s.clients c).radio.hasIoThread = true ∧ s.toNode.step (.error c) = some t.toNode ∧
      t.raisedBy = some c := by
  simp only [step, Option.ite_none_right_eq_some] at moved
  obtain ⟨attended, moved⟩ := moved
  obtain ⟨node, stepped, rfl⟩ := Option.map_eq_some_iff.mp moved
  exact ⟨attended, stepped, rfl⟩

/-- Its node goes through one of the runs of a node. -/
theorem node_reachable (reached : system.ReachableUnder Undisturbed s) :
    Driver.system.ReachableUnder (Driver.Undisturbed letGo) s.toNode := by
  induction reached with
  | start first =>
      cases first
      exact .start rfl
  | @step _ _ a _ allowed moved ih =>
      cases a with
      | node a =>
          obtain ⟨-, node, stepped, rfl⟩ := node_cases moved
          exact .step ih allowed stepped
      | error c message =>
          exact .step (a := .error c) ih (fun disturbs => by cases disturbs) (raise_cases moved).2.1

end ReportingNode

/-! ## What an instruction does to the error and to a `close` -/

section Execute

variable {s t : Node} {instr : Instr}

/-- No instruction sets the error, and one clears it. -/
theorem execute_error (moved : s.execute instr = some t) (failed : t.radioClientError = true) :
    s.radioClientError = true ∧ instr ≠ .clearError := by
  cases instr with
  | clearError =>
      cases moved
      cases failed
  | createRadioClient =>
      cases moved
      rw [Node.createRadioClient] at failed
      split at failed <;> exact ⟨failed, by rintro ⟨⟩⟩
  | close =>
      cases moved
      rw [Node.close] at failed
      split at failed <;> exact ⟨failed, by rintro ⟨⟩⟩
  | deleteClient | setWaveFilePath | wireHandlers =>
      simp only [Node.execute] at moved
      split at moved <;>
      · cases moved
        exact ⟨failed, by rintro ⟨⟩⟩
  | testError | testConnecting | testConnected =>
      cases moved
      split at failed <;> exact ⟨failed, by rintro ⟨⟩⟩
  | join =>
      simp only [Node.execute, Node.join] at moved
      split at moved <;> first | (cases moved; exact ⟨failed, by rintro ⟨⟩⟩) | cases moved
  | setConnecting | clearConnecting | startThread | loadWaveConfig | releaseThread =>
      cases moved
      exact ⟨failed, by rintro ⟨⟩⟩

/-- The client an instruction begins to close is the one the node points to, and the node goes on
pointing to it unless it was given another. -/
theorem execute_closing (moved : s.execute instr = some t) :
    t.closing = s.closing ∨
      ∃ d, s.radioClient = some d ∧ t.closing = some d ∧
        (instr = .createRadioClient ∨ t.radioClient = some d) := by
  cases instr with
  | createRadioClient =>
      cases moved
      rcases createRadioClient_closing s with ⟨-, same, -⟩ | ⟨old, points, closing, -⟩
      · exact .inl same
      · exact .inr ⟨old, points, closing, .inl rfl⟩
  | close =>
      cases moved
      rw [Node.close]
      split
      · rename_i c points
        exact .inr ⟨c, points, rfl, .inr points⟩
      · exact .inl rfl
  | deleteClient =>
      simp only [Node.execute] at moved
      split at moved
      · rename_i c points
        cases moved
        exact .inr ⟨c, points, rfl, .inr points⟩
      · cases moved
        exact .inl rfl
  | setWaveFilePath | wireHandlers =>
      simp only [Node.execute] at moved
      split at moved <;>
      · cases moved
        exact .inl rfl
  | testError | testConnecting | testConnected =>
      cases moved
      split <;> exact .inl rfl
  | join =>
      simp only [Node.execute, Node.join] at moved
      split at moved <;> first | (cases moved; exact .inl rfl) | cases moved
  | clearError | setConnecting | clearConnecting | startThread | loadWaveConfig
  | releaseThread =>
      cases moved
      exact .inl rfl

end Execute

/-! ## The invariant -/

namespace ReportingNode

/-- The error that is kept now is not going to be asked for: the callback is still to clear it, or
the node is being destroyed. -/
def Unasked (s : ReportingNode) : Prop := .clearError ∈ s.script ∨ s.destroyed = true

/-- A client the node has replaced is closed, deleted or to blame only while nobody asks. -/
structure Blamed (s : ReportingNode) : Prop where
  making : .createRadioClient ∈ s.script → ∃ path file, s.script = Node.handleOnConfigure path file
  final : .deleteClient ∈ s.script → s.destroyed = true
  closing : ∀ d, s.closing = some d →
    d < s.created ∧ (s.radioClient = some d ∨ s.Unasked)
  deleting : ∀ d, s.deleting = some d → s.radioClient ≠ some d ∨ s.destroyed = true
  blamed : s.radioClientError = true → ∃ d, s.raisedBy = some d ∧ d < s.created ∧
    (s.clients d).radio.isMqtt = false ∧ (s.radioClient = some d ∨ s.Unasked)

variable {s t : ReportingNode}

/-- A step that leaves the callback and the pointer alone, and keeps the transports. -/
theorem Blamed.aside {node : Node} (blamed : Blamed s) (script : node.script = s.script)
    (created : node.created = s.created) (client : node.radioClient = s.radioClient)
    (destroyed : node.destroyed = s.destroyed)
    (closing : ∀ d, node.closing = some d → s.closing = some d)
    (deleting : ∀ d, node.deleting = some d → s.deleting = some d)
    (failed : node.radioClientError = s.radioClientError)
    (kinds : ∀ d, (node.clients d).radio.isMqtt = (s.clients d).radio.isMqtt) :
    Blamed { s with toNode := node } := by
  have unasked : Unasked { s with toNode := node } ↔ s.Unasked := by
    simp only [Unasked, script, destroyed]
  refine ⟨?_, ?_, ?_, ?_, ?_⟩
  · simpa only [script] using blamed.making
  · simpa only [script, destroyed] using blamed.final
  · intro d closes
    rw [unasked]
    simpa only [created, client] using blamed.closing d (closing d closes)
  · intro d deletes
    simpa only [client, destroyed] using blamed.deleting d (deleting d deletes)
  · intro fails
    obtain ⟨d, raised, old, kind, here⟩ := blamed.blamed (failed ▸ fails)
    refine ⟨d, raised, created ▸ old, (kinds d).trans kind, ?_⟩
    rw [unasked]
    simpa only [client] using here

/-- A callback begins. -/
theorem Blamed.begin {node : Node} (blamed : Blamed s) (idle : s.Idle)
    (making : .createRadioClient ∈ node.script →
      ∃ path file, node.script = Node.handleOnConfigure path file)
    (final : .deleteClient ∈ node.script → node.destroyed = true)
    (created : node.created = s.created) (client : node.radioClient = s.radioClient)
    (closing : node.closing = s.closing) (deleting : node.deleting = s.deleting)
    (failed : node.radioClientError = s.radioClientError) (clients : node.clients = s.clients) :
    Blamed { s with toNode := node } := by
  obtain ⟨ended, open_, undeleted, alive⟩ := idle
  refine ⟨making, final, ?_, ?_, ?_⟩
  · intro d closes
    rw [closing, open_] at closes
    cases closes
  · intro d deletes
    rw [deleting, undeleted] at deletes
    cases deletes
  · intro fails
    obtain ⟨d, raised, old, kind, here⟩ := blamed.blamed (failed ▸ fails)
    have points : s.radioClient = some d := by
      refine here.resolve_right ?_
      rw [Unasked, ended, alive]
      simp
    exact ⟨d, raised, created ▸ old, clients ▸ kind, .inl (client.trans points)⟩

/-- Behind `createRadioClient` the error is cleared. -/
theorem Blamed.clears (blamed : Blamed s) {rest : List Instr}
    (script : s.script = .createRadioClient :: rest) :
    .clearError ∈ rest ∧ .createRadioClient ∉ rest := by
  obtain ⟨path, file, configuring⟩ := blamed.making (by rw [script]; exact List.mem_cons_self)
  obtain ⟨-, rfl⟩ := List.cons.inj (script.symm.trans configuring)
  simp [Node.preSpin]

theorem Blamed.execute {node : Node} (kept : Kept s.toNode) (blamed : Blamed s) {instr : Instr}
    {rest : List Instr} (script : s.script = instr :: rest) (open_ : s.closing = none)
    (undeleted : s.deleting = none)
    (moved : { s.toNode with script := rest }.execute instr = some node) :
    Blamed { s with toNode := node } := by
  have does := execute_does moved
  have head : instr ∈ s.script := by
    rw [script]
    exact List.mem_cons_self
  have behind {later : Instr} (waits : later ∈ rest) : later ∈ s.script := by
    rw [script]
    exact List.mem_cons_of_mem _ waits
  have grown : s.created ≤ node.created := by
    rcases does.pointer with ⟨same, -⟩ | ⟨-, more, -⟩
    · exact Nat.le_of_eq same.symm
    · exact Nat.le_of_lt (Nat.lt_of_succ_le (Nat.le_of_eq more.symm))
  have clears (creates : instr = .createRadioClient) : .clearError ∈ node.script := by
    subst creates
    exact does.tail (blamed.clears script).1
  have unasked (other : instr ≠ .clearError) (before : s.Unasked) :
      Unasked { s with toNode := node } := by
    rcases before with waits | destroyed
    · rw [script, List.mem_cons] at waits
      exact .inl (does.tail (waits.resolve_left (Ne.symm other)))
    · exact .inr (does.destroyed.trans destroyed)
  refine ⟨?_, ?_, ?_, ?_, ?_⟩
  · intro waits
    rcases does.script waits with later | pushed
    · -- it stands nowhere but in front
      obtain ⟨path, file, configuring⟩ := blamed.making (behind later)
      obtain ⟨rfl, -⟩ := List.cons.inj (script.symm.trans configuring)
      exact absurd later (blamed.clears script).2
    · cases pushed
  · intro waits
    rcases does.script waits with later | pushed
    · exact does.destroyed.trans (blamed.final (behind later))
    · cases pushed
  · intro d closes
    rcases execute_closing moved with same | ⟨old, points, begun, pointer⟩
    · rw [show node.closing = none from same.trans open_] at closes
      cases closes
    · obtain rfl : old = d := Option.some.inj (begun.symm.trans closes)
      refine ⟨Nat.lt_of_lt_of_le (kept.guarded.pointed old points) grown, ?_⟩
      rcases pointer with creates | still
      · exact .inr (.inl (clears creates))
      · exact .inl still
  · intro d deletes
    rcases execute_deleting moved with same | ⟨old, points, begun, final | made⟩
    · rw [show node.deleting = none from same.trans undeleted] at deletes
      cases deletes
    · exact .inr (does.destroyed.trans (blamed.final (final ▸ head)))
    · obtain rfl : old = d := Option.some.inj (begun.symm.trans deletes)
      have older := kept.guarded.pointed old points
      refine .inl fun still => ?_
      have same : s.created = old := Option.some.inj (made.symm.trans still)
      exact absurd same (Nat.ne_of_gt older)
  · intro fails
    obtain ⟨failed, other⟩ := execute_error moved fails
    obtain ⟨d, raised, old, kind, here⟩ := blamed.blamed failed
    refine ⟨d, raised, Nat.lt_of_lt_of_le old grown, ?_, ?_⟩
    · by_cases creates : instr = .createRadioClient
      · subst creates
        cases moved
        rcases serves_createRadioClient { s.toNode with script := rest } d with
          ⟨-, serves⟩ | ⟨new, -⟩
        · exact (RadioClient.isMqtt_serves serves).trans kind
        · exact absurd new (Nat.ne_of_lt old)
      · exact (RadioClient.isMqtt_serves (execute_serves creates moved d)).trans kind
    · rcases here with points | before
      · rcases does.pointer with ⟨-, same⟩ | ⟨creates, -⟩
        · exact .inl (same.trans points)
        · exact .inr (.inl (clears creates))
      · exact .inr (unasked other before)

/-- A destructor ends: the node points to that client only if it is destroyed itself. -/
theorem Blamed.finishDelete (blamed : Blamed s) {c : Nat} (open_ : s.closing = none)
    (deleting : s.deleting = some c) :
    Blamed { s with toNode := s.toNode.finishDelete c } := by
  refine ⟨blamed.making, blamed.final, ?_, ?_, ?_⟩
  · intro d closes
    rw [show s.closing = some d from closes] at open_
    cases open_
  · intro d deletes
    cases deletes
  · intro fails
    obtain ⟨d, raised, old, kind, here⟩ := blamed.blamed fails
    refine ⟨d, raised, old, by rw [Node.finishDelete_radio]; exact kind, ?_⟩
    rcases here with points | unasked
    · by_cases same : d = c
      · subst same
        exact .inr (.inr ((blamed.deleting d deleting).resolve_left fun other => other points))
      · have other : s.radioClient ≠ some c := by
          rw [points]
          exact fun equal => same (Option.some.inj equal)
        exact .inl ((if_neg other).trans points)
    · exact .inr unasked

theorem Blamed.executorStep {node : Node} (kept : Kept s.toNode) (blamed : Blamed s)
    (moved : s.toNode.executorStep = some node) : Blamed { s with toNode := node } := by
  rcases executorStep_cases moved with ⟨c, closing, rfl⟩ | ⟨c, open_, deleting, rfl⟩ |
    ⟨instr, rest, open_, undeleted, script, executed⟩
  · refine blamed.aside rfl rfl rfl rfl ?_ (fun _ => id) rfl fun d =>
      RadioClient.isMqtt_serves (serves_stepClose s.toNode c d)
    intro d closes
    simp only [Node.stepClose] at closes
    split at closes
    · exact closing.trans closes
    · cases closes
  · exact blamed.finishDelete open_ deleting
  · exact blamed.execute kept script open_ undeleted executed

theorem Blamed.threadStep {node : Node} (blamed : Blamed s) {succeeds : Bool}
    (moved : s.toNode.threadStep succeeds = some node) : Blamed { s with toNode := node } := by
  have kinds {c : Nat} {change : RadioClient → RadioClient}
      (kind : (change (s.clients c).radio).isMqtt = (s.clients c).radio.isMqtt) (d : Nat) :
      ((s.toNode.onClient c change).clients d).radio.isMqtt = (s.clients d).radio.isMqtt :=
    s.toNode.forall_onClient (P := fun d radio => radio.isMqtt = (s.clients d).radio.isMqtt) kind
      (fun _ _ => rfl) d
  rcases threadStep_cases moved with ⟨c, -, -, rfl⟩ | ⟨c, -, rfl⟩ | ⟨-, rfl⟩
  · exact blamed.aside rfl rfl rfl rfl (fun _ => id) (fun _ => id) rfl
      (kinds (RadioClient.isMqtt_beginConnect _ _))
  · exact blamed.aside rfl rfl rfl rfl (fun _ => id) (fun _ => id) rfl
      (kinds (RadioClient.isMqtt_stepConnect _ _))
  · exact blamed.aside rfl rfl rfl rfl (fun _ => id) (fun _ => id) rfl fun _ => rfl

theorem Blamed.callBack {node : Node} (blamed : Blamed s) {c : Nat}
    {answer : RadioClient → Option RadioClient}
    (serves : ∀ r answered, answer r = some answered → Serves s.script r answered)
    (moved : s.toNode.callBack c answer = some node) : Blamed { s with toNode := node } := by
  obtain ⟨radio, served, rfl⟩ := callBack_serves serves moved
  exact blamed.aside rfl rfl rfl rfl (fun _ => id) (fun _ => id) rfl fun d =>
    RadioClient.isMqtt_serves (serves_onClient s.toNode served d)

/-- An error comes from the client the node points to, or from one it has just replaced. -/
theorem Blamed.raise (kept : Kept s.toNode) (hushed : Hushed s.toNode) (blamed : Blamed s) {c : Nat}
    {message : String} (moved : s.step (.error c message) = some t) : Blamed t := by
  obtain ⟨attended, stepped, raised⟩ := raise_cases moved
  obtain ⟨node, errorMessage, raisedBy⟩ := t
  obtain rfl : raisedBy = some c := raised
  obtain ⟨-, rfl : node = _⟩ := error_cases stepped
  have awake : ¬ (s.clients c).radio.Resting := by
    intro resting
    rw [resting.hasIoThread] at attended
    cases attended
  have here : c < s.created ∧ (s.radioClient = some c ∨ s.Unasked) := by
    by_cases points : s.radioClient = some c
    · exact ⟨kept.guarded.pointed c points, .inl points⟩
    · exact blamed.closing c ((hushed.others c points).resolve_right awake)
  have kind : (s.clients c).radio.isMqtt = false := by
    cases at_ : (s.clients c).radio with
    | mqtt calls =>
        rw [at_] at attended
        cases attended
    | udp calls => rfl
  exact ⟨blamed.making, blamed.final, blamed.closing, blamed.deleting, fun _ =>
    ⟨c, rfl, here.1, kind, here.2⟩⟩

theorem Blamed.step (kept : Kept s.toNode) (hushed : Hushed s.toNode) (blamed : Blamed s)
    {a : Action} (moved : s.step a = some t) : Blamed t := by
  cases a with
  | error c message => exact blamed.raise kept hushed moved
  | node a =>
      obtain ⟨other, node, stepped, rfl⟩ := node_cases moved
      cases a with
      | configure config path file =>
          obtain ⟨idle, rfl⟩ := configure_cases stepped
          refine blamed.begin idle (fun _ => ⟨path, file, rfl⟩) ?_ rfl rfl rfl rfl rfl rfl
          simp [Node.handleOnConfigure, Node.preSpin]
      | reconnect =>
          obtain ⟨idle, -, rfl⟩ := reconnect_cases stepped
          refine blamed.begin idle ?_ ?_ rfl rfl rfl rfl rfl rfl <;>
            simp [Node.reconnectSrv, Node.preSpin]
      | shutdown =>
          obtain ⟨idle, rfl⟩ := shutdown_cases stepped
          refine blamed.begin idle ?_ ?_ rfl rfl rfl rfl rfl rfl <;>
            simp [Node.handleOnShutdown]
      | destruct =>
          obtain ⟨idle, rfl⟩ := destruct_cases stepped
          refine blamed.begin idle ?_ (fun _ => rfl) rfl rfl rfl rfl rfl rfl
          simp [Node.destructor]
      | executor => exact blamed.executorStep kept stepped
      | thread succeeds => exact blamed.threadStep stepped
      | connack c handle rc accepted =>
          exact blamed.callBack (fun _ _ => .connack) stepped
      | dropped c handle => exact blamed.callBack (fun _ _ => .dropped) stepped
      | error c => exact absurd rfl (other c)

theorem blamed_of_reachable (reached : system.ReachableUnder Undisturbed s) : Blamed s := by
  induction reached with
  | start first =>
      cases first
      exact ⟨nofun, nofun, nofun, nofun, nofun⟩
  | step before _ moved blamed =>
      have run := node_reachable before
      exact blamed.step (kept_of_reachable run) (hushed_of_reachable run) moved

/-- **The status is about one client.**  Whenever the status service can be asked, it answers with
the flag of the client the node points to; it names no error, or one that this very client, a UDP
client, has raised. -/
theorem status_names_client (reached : system.ReachableUnder Undisturbed s) (idle : s.Idle)
    {c : Nat} (points : s.radioClient = some c) :
    s.getStatusSrv.success = (s.clients c).radio.connected ∧
      (s.radioClientError = false ∧
          s.getStatusSrv.message = s.statusLine (s.clients c).radio.connected ∨
        (s.clients c).radio.isMqtt = false ∧ s.raisedBy = some c ∧
          s.getStatusSrv.message =
            s.statusLine (s.clients c).radio.connected ++ ", last_error=" ++ s.errorMessage) := by
  have online : s.clientConnected = (s.clients c).radio.connected := by
    simp only [Node.clientConnected, points]
  refine ⟨online, ?_⟩
  cases failed : s.radioClientError with
  | false => exact .inl ⟨rfl, by simp [getStatusSrv, failed, online]⟩
  | true =>
      obtain ⟨d, raised, -, kind, here⟩ := (blamed_of_reachable reached).blamed failed
      have asked : ¬ s.Unasked := by
        rw [Unasked, idle.1, idle.2.2.2]
        simp
      obtain rfl : c = d := Option.some.inj (points.symm.trans (here.resolve_right asked))
      exact .inr ⟨kind, raised, by simp [getStatusSrv, failed, online]⟩

/-- A UDP node is configured and connects, and a send of it fails. -/
def failToSend : List Action :=
  (.configure {} "share/v2x_ros_driver/etc/wave.json" (.accepted waveJson) ::
    List.replicate 11 Node.Action.executor ++ List.replicate 15 (Node.Action.thread true)).map
      .node ++ [.error 0 "Network is unreachable"]

def unreachableNode : ReportingNode := (system.runUnder Undisturbed {} failToSend).getD {}

theorem unreachableNode_status :
    unreachableNode.getStatusSrv =
      ⟨true, "protocol=udp, connected=true, last_error=Network is unreachable"⟩ ∧
    unreachableNode.raisedBy = some 0 := by
  have succeeds : (system.runUnder Undisturbed {} failToSend).isSome = true := rfl
  have reached : system.ReachableUnder Undisturbed unreachableNode :=
    System.reachableUnder_getD (.start rfl) succeeds {}
  have idle : unreachableNode.Idle := ⟨rfl, rfl, rfl, rfl⟩
  obtain ⟨-, ⟨fine, -⟩ | ⟨-, raised, -⟩⟩ := status_names_client (c := 0) reached idle rfl
  · cases fine
  · exact ⟨rfl, raised⟩

end ReportingNode

end V2xRosDriver.Driver
