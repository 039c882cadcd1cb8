/-
# Driver.SendQueue -- once and in order?

`onOutboundMessage` pushes a message, sends the front of the queue and pops the front: the
message it sends is the one it pushed only if the queue was empty.  A call of
`sendV2xMessage` that throws leaves its message in front, and from then on every message
pushes out the one before it.  A run is any sequence of callbacks, with anything done to the
rest of the node between them; it stays in order exactly as long as no call throws
(`inOrder_iff_sendable`).
-/
import V2xRosDriver.Driver.OutboundTotal

namespace V2xRosDriver.Driver

set_option autoImplicit false

open V2xRosDriver.Theory.Transition
open V2xRosDriver.Radio
open V2xRosDriver.Mqtt

/-- The node between two callbacks, and what was to be sent for each message that arrived while
it was connected. -/
structure SendingRun where
  node : SendingNode
  arrived : List (Except Fault (List UInt8)) := []

namespace SendingRun

/-- A callback with what `connected ()` and `sendV2xMessage` come back with, or a change other
callbacks and threads make to the rest of the node. -/
inductive Action where
  | callback (connected : Bool) (outcome : Except Fault Bool) (message : ByteArrayMsg)
  | elsewhere (node : Node)

def callback (s : SendingRun) (connected : Bool) (outcome : Except Fault Bool)
    (message : ByteArrayMsg) : SendingRun where
  node := (s.node.onOutboundMessage connected (fun _ => outcome) message).2
  arrived := if connected then s.arrived ++ [s.node.messageContent message] else s.arrived

def step (s : SendingRun) : Action → SendingRun
  | .callback connected outcome message => s.callback connected outcome message
  | .elsewhere node => { s with node := { s.node with toNode := node } }

/-- Runs begin with a node that has sent nothing. -/
def system : System SendingRun Action where
  start s := ∃ node : Node, s = { node := { toNode := node } }
  step s a := some (s.step a)

/-- The queue is empty, and what was sent is what arrived, each once and in the order of
arrival. -/
structure InOrder (s : SendingRun) : Prop where
  empty : s.node.sendMsgQueue = []
  sent : s.arrived = s.node.sendCalls.map (.ok ·.message)

/-- A message that arrives while the node is connected has a content to send, and sending it
does not throw. -/
def Sendable (s : SendingRun) : Action → Prop
  | .callback true outcome message =>
      (s.node.config.protocol = "mqtt" ∨ KnownType s.node.waveCfgItems message ∨
        2 ≤ message.content.length) ∧ ∃ success, outcome = .ok success
  | _ => True

section Step

variable {s : SendingRun} {outcome : Except Fault Bool} {message : ByteArrayMsg}

/-- A message without a content to send is lost on the way. -/
theorem callback_of_error (inOrder : InOrder s) {fault : Fault}
    (fails : s.node.messageContent message = .error fault) :
    ¬ InOrder (s.callback true outcome message) := by
  intro after
  have sent := congrArg List.length after.sent
  have before := congrArg List.length inOrder.sent
  simp only [callback, SendingNode.onOutboundMessage, fails, not_true_eq_false, if_false,
    if_true, List.length_append, List.length_map, List.length_singleton] at sent before
  omega

/-- A message with a content is the front of an empty queue; whether it is popped depends on
how the call ends. -/
theorem callback_of_content (inOrder : InOrder s) {content : List UInt8}
    (packed : s.node.messageContent message = .ok content) :
    InOrder (s.callback true outcome message) ↔ ∃ success, outcome = .ok success := by
  obtain ⟨empty, sent⟩ := inOrder
  cases outcome with
  | ok success =>
      refine iff_of_true ⟨?_, ?_⟩ ⟨success, rfl⟩
      · simp [callback, SendingNode.onOutboundMessage, packed, empty,
          SendingNode.sendMessageFromQueue, SendingNode.sendV2xMessage]
      · simp [callback, SendingNode.onOutboundMessage, packed, empty,
          SendingNode.sendMessageFromQueue, SendingNode.sendV2xMessage, sent]
  | error fault =>
      refine iff_of_false (fun after => ?_) (fun returned => ?_)
      · have left := after.empty
        simp [callback, SendingNode.onOutboundMessage, packed, empty,
          SendingNode.sendMessageFromQueue, SendingNode.sendV2xMessage] at left
      · obtain ⟨success, same⟩ := returned
        cases same

/-- From a node in order a step leads to one in order exactly if what it sends can be sent. -/
theorem inOrder_step_iff {a : Action} (inOrder : InOrder s) :
    InOrder (s.step a) ↔ s.Sendable a := by
  cases a with
  | elsewhere node => exact iff_of_true ⟨inOrder.empty, inOrder.sent⟩ trivial
  | callback connected outcome message =>
      cases connected with
      | false =>
          refine iff_of_true ⟨?_, ?_⟩ trivial
          · exact inOrder.empty
          · exact inOrder.sent
      | true =>
          show InOrder (s.callback true outcome message) ↔ _ ∧ _
          by_cases enough : s.node.config.protocol = "mqtt" ∨
              KnownType s.node.waveCfgItems message ∨ 2 ≤ message.content.length
          · obtain ⟨content, packed⟩ := messageContent_ok enough
            rw [and_iff_right enough]
            exact callback_of_content inOrder packed
          · refine iff_of_false ?_ fun sendable => enough sendable.1
            rw [not_or, not_or, Nat.not_le] at enough
            obtain ⟨text, unknown, short⟩ := enough
            exact callback_of_error inOrder (messageContent_error text unknown short)

end Step

/-- **Exactly when the queue is once and in order.**  In every state of a run the queue is
empty and the messages that arrived while the node was connected were sent, each once and in
their order, if and only if every one of them had a content to send and no call that sent one
threw. -/
theorem inOrder_iff_sendable (node : Node) (actions : List Action) :
    system.Visits InOrder { node := { toNode := node } } actions ↔
      system.Complies Sendable { node := { toNode := node } } actions := by
  apply System.visits_iff_complies
  · rintro s a t inOrder taken
    obtain rfl := Option.some.inj taken
    exact inOrder_step_iff inOrder
  · exact ⟨rfl, rfl⟩

/-- A node that sends raw content. -/
def mqttNode : Node := { config := { protocol := "mqtt" } }

/-- A BSM whose psid cannot be read, then a MAP message; the second call is for the BSM again. -/
def throwThenSend : List Action :=
  [.callback true (.error (.stoi .invalidArgument)) ⟨"BSM", [0x00, 0x14]⟩,
    .callback true (.error (.stoi .invalidArgument)) ⟨"MAP", [0x00, 0x12]⟩]

/-- The BSM is tried again instead of the MAP message, which waits behind it for good. -/
theorem thrown_blocks_next :
    (∀ accepted, (RadioClient.mqtt { client := wordyClient }).sendV2xMessage accepted
        [0x00, 0x14] = .error (.stoi .invalidArgument)) ∧
      (∃ s, system.run { node := { toNode := mqttNode } } throwThenSend = some s ∧
        s.node.sendCalls.map (·.message) = [[0x00, 0x14], [0x00, 0x14]] ∧
        s.node.sendMsgQueue = [[0x00, 0x14], [0x00, 0x12]]) ∧
      ¬ system.Visits InOrder { node := { toNode := mqttNode } } throwThenSend := by
  have ran : ∃ s, system.run { node := { toNode := mqttNode } } throwThenSend = some s ∧
      s.node.sendCalls.map (·.message) = [[0x00, 0x14], [0x00, 0x14]] ∧
      s.node.sendMsgQueue = [[0x00, 0x14], [0x00, 0x12]] := ⟨_, rfl, by decide, by decide⟩
  refine ⟨?_, ran, fun visits => ?_⟩
  · intro accepted
    cases accepted <;> decide
  · obtain ⟨s, replayed, -, waiting⟩ := ran
    have empty := (visits.there replayed).empty
    rw [waiting] at empty
    cases empty

end SendingRun

end V2xRosDriver.Driver
