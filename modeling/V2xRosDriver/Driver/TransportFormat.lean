/-
# Driver.TransportFormat -- does the format follow the transport?

`createRadioClient` chooses the transport once, from `config_.protocol` at configure time.
The handlers and the connect thread read `config_.protocol` again whenever they run, and
a parameter update may have changed it in between: a UDP client is then handed raw content
and told to connect to the broker (`udp_client_gets_raw_content`).  The client is not made
anew, by an update or by a reconnect.

If no accepted update turns an mqtt node into another or another into an mqtt node, every
client gets what its transport needs in every run (`suited_of_reachable`).  The invariant
ties the transport of every client there is to the protocol (`Matched`).
-/
import V2xRosDriver.Driver.Outbound
import V2xRosDriver.Driver.Parameters
import V2xRosDriver.Driver.Steps

namespace V2xRosDriver.Driver

set_option autoImplicit false

open V2xRosDriver.Theory.Transition
open V2xRosDriver.Radio

/-! ## Runs of a configured node -/

/-- The sending node with a record of what its calls were about: the messages the elements of
the queue were made of, for every `sendV2xMessage` call the message it was made for, and the
calls of `connect`. -/
structure TransportNode extends SendingNode where
  queued : List ByteArrayMsg := []
  handled : List ByteArrayMsg := []
  connectCalls : List ConnectCall := []

/-- A step other than a configure, the shutdown and the destructor. -/
def Node.Action.ordinary : Node.Action → Bool
  | .configure _ _ _ | .shutdown | .destruct => false
  | _ => true

namespace TransportNode

inductive Action where
  | node (a : Node.Action)
  | update (parameters : List Parameter)
  | outbound (message : ByteArrayMsg) (accepted : Bool)
  | send (message : ByteArrayMsg) (accepted : Bool)

/-- `radio_client_->sendV2xMessage`. -/
def clientSend (s : TransportNode) (accepted : Bool) (message : List UInt8) : Except Fault Bool :=
  match s.radioClient with
  | some c => (s.clients c).radio.sendV2xMessage accepted message
  | none => .error .badAccess

/-- `onOutboundMessage`, and what the call and the elements left in the queue are about. -/
def outbound (s : TransportNode) (message : ByteArrayMsg) (accepted : Bool) : TransportNode :=
  let left := (s.onOutboundMessage s.clientConnected (s.clientSend accepted) message).2
  if left.sendCalls.length = s.sendCalls.length then { s with toSendingNode := left }
  else
    let waiting := s.queued ++ [message]
    { s with
      toSendingNode := left
      queued := waiting.drop (waiting.length - left.sendMsgQueue.length)
      handled := s.handled ++ waiting.take 1 }

/-- `sendMessageSrv`, and what its call is about. -/
def send (s : TransportNode) (message : ByteArrayMsg) (accepted : Bool) : TransportNode :=
  let left := (s.sendMessageSrv s.clientConnected (s.clientSend accepted) message).2
  if left.sendCalls.length = s.sendCalls.length then { s with toSendingNode := left }
  else { s with toSendingNode := left, handled := s.handled ++ [message] }

/-- The node in the rest of the configure `config_` belongs to. -/
def configuring (config : Config) (path : String) (file : WaveFile) : TransportNode :=
  { config := config, script := Node.handleOnConfigure path file }

def step (s : TransportNode) : Action → Option TransportNode
  | .node a =>
      if a.ordinary then
        match s.toNode.step a with
        | some node => some
            { s with
              toSendingNode := { s.toSendingNode with toNode := node }
              connectCalls := s.connectCalls ++ connectCallsOf s.toNode a }
        | none => none
      else none
  | .update parameters =>
      -- only accepted updates
      if s.toNode.Idle ∧ (parameterUpdateCallback parameters s.config).1 = true then
        some { s with config := (parameterUpdateCallback parameters s.config).2 }
      else none
  | .outbound message accepted =>
      if s.toNode.Idle ∧ s.radioClient.isSome then some (s.outbound message accepted) else none
  | .send message accepted =>
      if s.toNode.Idle ∧ s.radioClient.isSome then some (s.send message accepted) else none

end TransportNode

/-- A node from its first configure on, under accepted updates, messages, send requests and
reconnects. -/
def configuredNode : System TransportNode TransportNode.Action where
  start s := ∃ config path file, s = .configuring config path file
  step := TransportNode.step

/-! ## What a transport needs -/

/-- What an MQTT client is told to connect to. -/
def brokerEndpoint (config : Config) : Endpoint :=
  ⟨config.brokerAddress, UInt16.ofInt config.brokerPort.toInt, 0⟩

/-- What a UDP client is told to connect to. -/
def obuEndpoint (config : Config) : Endpoint :=
  ⟨config.v2xRadioAddress, UInt16.ofInt config.v2xRadioListeningPort.toInt,
    UInt16.ofInt config.listeningPort.toInt⟩

namespace TransportNode

/-- The call handed an MQTT client the content of the message, or a UDP client its text. -/
def Suits (s : TransportNode) (message : ByteArrayMsg) (call : SendCall) : Prop :=
  ∃ c, call.client = some c ∧
    if (s.clients c).radio.isMqtt then call.message = message.content
    else packMessage s.waveCfgItems message = .ok call.message

/-- Every `sendV2xMessage` call got the format, and every `connect` call the endpoint, of the
client it was made on. -/
structure Suited (s : TransportNode) : Prop where
  sends : List.Forall₂ s.Suits s.handled s.sendCalls
  connects : ∀ call ∈ s.connectCalls,
    call.endpoint =
      if (s.clients call.client).radio.isMqtt then brokerEndpoint call.config
      else obuEndpoint call.config

/-- An update gives `protocol` no value that makes an mqtt node another or another an mqtt
node. -/
def KeepsTransport (s : TransportNode) : Action → Prop
  | .update parameters =>
      ∀ protocol ∈ (givenProtocols parameters).getLast?,
        protocol = "mqtt" ↔ s.config.protocol = "mqtt"
  | _ => True

instance (s : TransportNode) : (a : Action) → Decidable (s.KeepsTransport a)
  | .update parameters =>
      inferInstanceAs (Decidable (∀ protocol ∈ (givenProtocols parameters).getLast?,
        protocol = "mqtt" ↔ s.config.protocol = "mqtt"))
  | .node _ | .outbound _ _ | .send _ _ => .isTrue trivial

end TransportNode

/-! ## One step of the node -/

/-- What `t` has from `s`: the configuration, the clients with their transports, a table that
grows only where a load was due. -/
structure Inherits (s t : Node) : Prop where
  config : t.config = s.config
  created : s.created ≤ t.created
  pointed : ∀ c, t.radioClient = some c → s.radioClient = some c ∨ c < t.created
  kept : ∀ c, c < s.created → (t.clients c).radio.isMqtt = (s.clients c).radio.isMqtt
  made : ∀ c, s.created ≤ c → c < t.created →
    (t.clients c).radio.isMqtt = decide (s.config.protocol = "mqtt")
  items : t.waveCfgItems = s.waveCfgItems ∨ ∃ file, .loadWaveConfig file ∈ s.script
  loading : ∀ file, .loadWaveConfig file ∈ t.script → .loadWaveConfig file ∈ s.script

section Inherits

variable {s t : Node}

/-- A step that makes no client. -/
theorem Inherits.of_created (config : t.config = s.config) (created : t.created = s.created)
    (client : ∀ c, t.radioClient = some c → s.radioClient = some c)
    (kept : ∀ c, (t.clients c).radio.isMqtt = (s.clients c).radio.isMqtt)
    (items : t.waveCfgItems = s.waveCfgItems)
    (loading : ∀ file, .loadWaveConfig file ∈ t.script → .loadWaveConfig file ∈ s.script) :
    Inherits s t where
  config := config
  created := created.ge
  pointed c points := .inl (client c points)
  kept c _ := kept c
  made _ old new := absurd (created ▸ new) (Nat.not_lt.mpr old)
  items := .inl items
  loading := loading

theorem inherits_executorStep (moved : s.executorStep = some t) : Inherits s t := by
  have serves := executorStep_serves moved
  rcases executorStep_cases moved with ⟨c, -, rfl⟩ | ⟨c, -, -, rfl⟩ |
    ⟨instr, rest, -, -, script, executed⟩
  · exact .of_created rfl rfl (fun _ => id)
      (fun d => RadioClient.isMqtt_serves (serves_stepClose s _ d)) rfl fun _ => id
  · refine .of_created rfl rfl (fun d points => ?_) (fun d => by rw [Node.finishDelete_radio]) rfl
      fun _ => id
    simp only [Node.finishDelete] at points
    split at points
    · cases points
    · exact points
  · have does := execute_does executed
    have tail (later : Instr) (waits : later ∈ rest) : later ∈ s.script := by
      rw [script]
      exact List.mem_cons_of_mem _ waits
    refine ⟨does.config, ?_, ?_, ?_, ?_, ?_, ?_⟩
    · rcases does.pointer with ⟨created, -⟩ | ⟨-, created, -⟩
      · exact created.ge
      · rw [created]
        exact Nat.le_succ _
    · intro c points
      rcases does.pointer with ⟨-, client⟩ | ⟨-, created, client⟩
      · exact .inl (client ▸ points)
      · rw [client] at points
        rw [created, ← Option.some.inj points]
        exact .inr (Nat.lt_succ_self _)
    · intro c old
      rcases serves c with ⟨served, -⟩ | ⟨new, -⟩
      · exact RadioClient.isMqtt_serves served
      · exact absurd new (Nat.ne_of_lt old)
    · intro c old new
      rcases serves c with ⟨-, created | other⟩ | ⟨-, -, served⟩
      · exact absurd (created ▸ new) (Nat.not_lt.mpr old)
      · rcases does.pointer with ⟨created, -⟩ | ⟨-, created, -⟩
        · exact absurd (created ▸ new) (Nat.not_lt.mpr old)
        · have below : c < s.created + 1 := created ▸ new
          omega
      · rw [RadioClient.isMqtt_serves served, RadioClient.isMqtt_newRadioClient]
    · rcases does.waveCfgItems with same | ⟨file, rfl, -⟩
      · exact .inl same
      · right
        rw [script]
        exact ⟨file, List.mem_cons_self⟩
    · intro file waits
      rcases does.script waits with later | pushed
      · exact tail _ later
      · cases pushed

theorem inherits_threadStep {succeeds : Bool} (moved : s.threadStep succeeds = some t) :
    Inherits s t := by
  rcases threadStep_cases moved with ⟨c, -, -, rfl⟩ | ⟨c, -, rfl⟩ | ⟨-, rfl⟩
  · refine .of_created rfl rfl (fun _ => id) (fun d => ?_) rfl fun _ => id
    exact s.forall_onClient (P := fun d radio => radio.isMqtt = (s.clients d).radio.isMqtt)
      (RadioClient.isMqtt_beginConnect _ _) (fun _ _ => rfl) d
  · refine .of_created rfl rfl (fun _ => id) (fun d => ?_) rfl fun _ => id
    exact s.forall_onClient (P := fun d radio => radio.isMqtt = (s.clients d).radio.isMqtt)
      (RadioClient.isMqtt_stepConnect _ _) (fun _ _ => rfl) d
  · exact .of_created rfl rfl (fun _ => id) (fun _ => rfl) rfl fun _ => id

theorem inherits_callBack {c : Nat} {answer : RadioClient → Option RadioClient}
    (serves : ∀ r answered, answer r = some answered → Serves s.script r answered)
    (moved : s.callBack c answer = some t) : Inherits s t := by
  obtain ⟨radio, served, rfl⟩ := callBack_serves serves moved
  exact .of_created rfl rfl (fun _ => id)
    (fun d => RadioClient.isMqtt_serves (serves_onClient s served d)) rfl fun _ => id

/-- One step of a node whose configure has begun. -/
theorem inherits_step {a : Node.Action} (ordinary : a.ordinary = true)
    (moved : s.step a = some t) : Inherits s t := by
  cases a with
  | reconnect =>
      obtain ⟨-, -, rfl⟩ := reconnect_cases moved
      refine .of_created rfl rfl (fun _ => id) (fun _ => rfl) rfl fun file waits => ?_
      simp [Node.reconnectSrv, Node.preSpin] at waits
  | executor => exact inherits_executorStep moved
  | thread succeeds => exact inherits_threadStep moved
  | connack c handle rc accepted => exact inherits_callBack (fun _ _ => .connack) moved
  | dropped c handle => exact inherits_callBack (fun _ _ => .dropped) moved
  | error c =>
      obtain ⟨-, rfl⟩ := error_cases moved
      exact .of_created rfl rfl (fun _ => id) (fun _ => rfl) rfl fun _ => id
  | _ => cases ordinary

end Inherits

/-! ## The handlers -/

section Handlers

variable (s : SendingNode) (connected : Bool) (send : List UInt8 → Except Fault Bool)
  (message : ByteArrayMsg)

/-- What `onOutboundMessage` does to the node: nothing, or it queues the message and makes one
call with the front of the queue. -/
theorem onOutboundMessage_cases :
    (s.onOutboundMessage connected send message).2 = s ∨
      ∃ content front rest left, s.messageContent message = .ok content ∧
        s.sendMsgQueue ++ [content] = front :: rest ∧ (left = rest ∨ left = front :: rest) ∧
        (s.onOutboundMessage connected send message).2 =
          { s with
            sendMsgQueue := left
            sendCalls := s.sendCalls ++ [⟨s.radioClient, front, send front⟩] } := by
  simp only [SendingNode.onOutboundMessage]
  split
  · exact .inl rfl
  · cases made : s.messageContent message with
    | error fault => exact .inl rfl
    | ok content =>
        right
        have filled : s.sendMsgQueue ++ [content] ≠ [] := by simp
        obtain ⟨front, rest, queue⟩ := List.exists_cons_of_ne_nil filled
        simp only [SendingNode.sendMessageFromQueue, SendingNode.sendV2xMessage, queue]
        cases sent : send front with
        | ok success =>
            refine ⟨content, front, rest, rest, rfl, queue, .inl rfl, ?_⟩
            rw [sent]
            rfl
        | error fault =>
            refine ⟨content, front, rest, front :: rest, rfl, queue, .inr rfl, ?_⟩
            rw [sent]

/-- What `sendMessageSrv` does to the node: nothing, or one call with what is made of the
message. -/
theorem sendMessageSrv_cases :
    (s.sendMessageSrv connected send message).2 = s ∨
      ∃ content, s.messageContent message = .ok content ∧
        (s.sendMessageSrv connected send message).2 =
          { s with sendCalls := s.sendCalls ++ [⟨s.radioClient, content, send content⟩] } := by
  simp only [SendingNode.sendMessageSrv]
  split
  · exact .inl rfl
  · cases made : s.messageContent message with
    | error fault => exact .inl rfl
    | ok content =>
        right
        refine ⟨content, rfl, ?_⟩
        simp only [SendingNode.sendV2xMessage]
        cases send content <;> rfl

/-- What is made of a message depends on the protocol and the table. -/
theorem messageContent_congr {s t : SendingNode}
    (protocol : t.config.protocol = "mqtt" ↔ s.config.protocol = "mqtt")
    (items : t.waveCfgItems = s.waveCfgItems) (message : ByteArrayMsg) :
    t.messageContent message = s.messageContent message := by
  simp only [SendingNode.messageContent, protocol, items]

end Handlers

/-! ## The invariant -/

namespace TransportNode

/-- Every client there is has the transport of the protocol, and whatever was queued, sent or
told to connect fits the protocol.  Until the table is loaded nothing was queued or sent. -/
structure Matched (s : TransportNode) : Prop where
  pointed : ∀ c, s.radioClient = some c → c < s.created
  kinds : ∀ c, c < s.created →
    (s.clients c).radio.isMqtt = decide (s.config.protocol = "mqtt")
  loading : ∀ file, .loadWaveConfig file ∈ s.script → s.queued = [] ∧ s.handled = []
  waiting : List.Forall₂ (fun message content => s.messageContent message = .ok content)
    s.queued s.sendMsgQueue
  sends : List.Forall₂
    (fun message call => (∃ c, call.client = some c ∧ c < s.created) ∧
      s.messageContent message = .ok call.message)
    s.handled s.sendCalls
  connects : ∀ call ∈ s.connectCalls, call.client < s.created ∧
    call.endpoint =
      if s.config.protocol = "mqtt" then brokerEndpoint call.config else obuEndpoint call.config

variable {s t : TransportNode}

theorem Matched.suited (matched : s.Matched) : s.Suited := by
  constructor
  · refine matched.sends.imp ?_
    rintro message call ⟨⟨c, client, old⟩, made⟩
    refine ⟨c, client, ?_⟩
    rw [matched.kinds c old]
    by_cases mqtt : s.config.protocol = "mqtt"
    · simp only [SendingNode.messageContent, if_pos mqtt, Except.ok.injEq] at made
      simp [mqtt, made]
    · simpa [SendingNode.messageContent, mqtt] using made
  · intro call made
    obtain ⟨old, endpoint⟩ := matched.connects call made
    rw [endpoint, matched.kinds _ old]
    simp

theorem matched_configuring (config : Config) (path : String) (file : WaveFile) :
    (configuring config path file).Matched where
  pointed c points := by cases points
  kinds c old := absurd old (Nat.not_lt_zero c)
  loading _ _ := ⟨rfl, rfl⟩
  waiting := .nil
  sends := .nil
  connects call made := by cases made

/-- A step of the node that makes these `connect` calls. -/
theorem Matched.inherit (matched : s.Matched) {node : Node} {calls : List ConnectCall}
    (inherits : Inherits s.toNode node)
    (fit : ∀ call ∈ calls, s.radioClient = some call.client ∧
      call.endpoint =
        if s.config.protocol = "mqtt" then brokerEndpoint call.config
        else obuEndpoint call.config) :
    Matched { s with
      toSendingNode := { s.toSendingNode with toNode := node }
      connectCalls := s.connectCalls ++ calls } := by
  have grown (c : Nat) (old : c < s.created) : c < node.created :=
    Nat.lt_of_lt_of_le old inherits.created
  have protocol : node.config.protocol = s.config.protocol := by rw [inherits.config]
  -- what was made of the messages stays what is made of them
  have contents : s.queued = [] ∧ s.handled = [] ∨
      ∀ message,
        ({ s.toSendingNode with toNode := node } : SendingNode).messageContent message =
          s.messageContent message := by
    rcases inherits.items with same | ⟨file, due⟩
    · exact .inr fun message => messageContent_congr (by rw [protocol]) same message
    · exact .inl (matched.loading file due)
  refine ⟨?_, ?_, ?_, ?_, ?_, ?_⟩
  · intro c points
    rcases inherits.pointed c points with before | made
    · exact grown c (matched.pointed c before)
    · exact made
  · intro c old
    show (node.clients c).radio.isMqtt = decide (node.config.protocol = "mqtt")
    rw [protocol]
    by_cases before : c < s.created
    · rw [inherits.kept c before]
      exact matched.kinds c before
    · exact inherits.made c (Nat.not_lt.mp before) old
  · intro file due
    exact matched.loading file (inherits.loading file due)
  · rcases contents with ⟨empty, -⟩ | same
    · have waiting := matched.waiting
      rw [empty, List.forall₂_nil_left_iff] at waiting
      show List.Forall₂ _ s.queued s.sendMsgQueue
      rw [empty, waiting]
      exact .nil
    · refine matched.waiting.imp fun message content made => ?_
      rw [same]
      exact made
  · rcases contents with ⟨-, empty⟩ | same
    · have sends := matched.sends
      rw [empty, List.forall₂_nil_left_iff] at sends
      show List.Forall₂ _ s.handled s.sendCalls
      rw [empty, sends]
      exact .nil
    · refine matched.sends.imp ?_
      rintro message call ⟨⟨c, client, old⟩, made⟩
      refine ⟨⟨c, client, grown c old⟩, ?_⟩
      rw [same]
      exact made
  · intro call made
    show call.client < node.created ∧ call.endpoint = if node.config.protocol = "mqtt" then _ else _
    rw [protocol]
    rcases List.mem_append.mp made with before | new
    · obtain ⟨old, endpoint⟩ := matched.connects call before
      exact ⟨grown _ old, endpoint⟩
    · obtain ⟨points, endpoint⟩ := fit call new
      exact ⟨grown _ (matched.pointed _ points), endpoint⟩

/-- An update that keeps the transport. -/
theorem Matched.update (matched : s.Matched) {config : Config}
    (same : config.protocol = "mqtt" ↔ s.config.protocol = "mqtt") :
    Matched { s with config := config } := by
  have contents (message : ByteArrayMsg) :
      ({ s with config := config } : TransportNode).messageContent message =
        s.messageContent message :=
    messageContent_congr (s := s.toSendingNode)
      (t := ({ s with config := config } : TransportNode).toSendingNode) same rfl message
  refine ⟨matched.pointed, ?_, matched.loading, ?_, ?_, ?_⟩
  · intro c old
    show _ = decide (config.protocol = "mqtt")
    rw [decide_eq_decide.mpr same]
    exact matched.kinds c old
  · refine matched.waiting.imp fun message content made => ?_
    rw [contents]
    exact made
  · refine matched.sends.imp fun message call made => ?_
    rw [contents]
    exact made
  · intro call made
    show _ ∧ call.endpoint = if config.protocol = "mqtt" then _ else _
    simp only [same]
    exact matched.connects call made

theorem Matched.outbound (matched : s.Matched) (unloaded : s.script = []) {c : Nat}
    (points : s.radioClient = some c) (message : ByteArrayMsg) (accepted : Bool) :
    (s.outbound message accepted).Matched := by
  simp only [TransportNode.outbound]
  rcases onOutboundMessage_cases s.toSendingNode s.clientConnected (s.clientSend accepted)
    message with same | ⟨content, front, rest, left, made, queue, kept, called⟩
  · rw [same, if_pos rfl]
    exact matched
  · rw [called, if_neg (by simp)]
    have filled : List.Forall₂ (fun message content => s.messageContent message = .ok content)
        (s.queued ++ [message]) (s.sendMsgQueue ++ [content]) :=
      List.rel_append matched.waiting (.cons made .nil)
    rw [queue] at filled
    obtain ⟨first, others, fits, later, same⟩ := List.forall₂_cons_right_iff.mp filled
    have lengths := later.length_eq
    refine ⟨matched.pointed, matched.kinds, ?_, ?_, ?_, matched.connects⟩
    · intro file due
      rw [show s.script = [] from unloaded] at due
      cases due
    · show List.Forall₂ (fun message content => s.messageContent message = .ok content)
        ((s.queued ++ [message]).drop _) left
      rw [same]
      rcases kept with rfl | rfl
      · simpa [lengths] using later
      · simpa [lengths] using ⟨fits, later⟩
    · show List.Forall₂ _ (s.handled ++ (s.queued ++ [message]).take 1) (s.sendCalls ++ [_])
      rw [same]
      exact List.rel_append matched.sends
        (.cons ⟨⟨c, points, matched.pointed c points⟩, fits⟩ .nil)

theorem Matched.send (matched : s.Matched) (unloaded : s.script = []) {c : Nat}
    (points : s.radioClient = some c) (message : ByteArrayMsg) (accepted : Bool) :
    (s.send message accepted).Matched := by
  simp only [TransportNode.send]
  rcases sendMessageSrv_cases s.toSendingNode s.clientConnected (s.clientSend accepted)
    message with same | ⟨content, made, called⟩
  · rw [same, if_pos rfl]
    exact matched
  · rw [called, if_neg (by simp)]
    refine ⟨matched.pointed, matched.kinds, ?_, matched.waiting, ?_, matched.connects⟩
    · intro file due
      rw [show s.script = [] from unloaded] at due
      cases due
    · exact List.rel_append matched.sends
        (.cons ⟨⟨c, points, matched.pointed c points⟩, made⟩ .nil)

/-- The thread tells the client the node points to where to connect. -/
theorem connectCallsOf_fit {s : Node} {a : Node.Action} {call : ConnectCall}
    (made : call ∈ connectCallsOf s a) :
    s.radioClient = some call.client ∧
      call.endpoint =
        if s.config.protocol = "mqtt" then brokerEndpoint call.config
        else obuEndpoint call.config := by
  cases a with
  | thread succeeds =>
      simp only [connectCallsOf] at made
      split at made
      · rename_i c launched points
        simp only [List.mem_singleton] at made
        subst made
        exact ⟨points, rfl⟩
      · cases made
  | _ => cases made

/-! ## Runs -/

/-- One step. -/
theorem Matched.step (matched : s.Matched) {a : Action} (allowed : s.KeepsTransport a)
    (moved : s.step a = some t) : t.Matched := by
  cases a with
  | node a =>
      simp only [TransportNode.step] at moved
      split at moved
      · rename_i ordinary
        split at moved
        · rename_i node stepped
          cases moved
          exact matched.inherit (inherits_step ordinary stepped) fun call => connectCallsOf_fit
        · cases moved
      · cases moved
  | update parameters =>
      simp only [TransportNode.step, Option.ite_none_right_eq_some, Option.some.injEq] at moved
      obtain ⟨⟨-, accepted⟩, rfl⟩ := moved
      apply matched.update
      rw [protocol_of_accepted accepted]
      cases last : (givenProtocols parameters).getLast? with
      | none => rfl
      | some protocol => exact allowed protocol last
  | outbound message accepted =>
      simp only [TransportNode.step, Option.ite_none_right_eq_some, Option.some.injEq] at moved
      obtain ⟨⟨idle, pointed⟩, rfl⟩ := moved
      obtain ⟨c, points⟩ := Option.isSome_iff_exists.mp pointed
      exact matched.outbound idle.1 points message accepted
  | send message accepted =>
      simp only [TransportNode.step, Option.ite_none_right_eq_some, Option.some.injEq] at moved
      obtain ⟨⟨idle, pointed⟩, rfl⟩ := moved
      obtain ⟨c, points⟩ := Option.isSome_iff_exists.mp pointed
      exact matched.send idle.1 points message accepted

/-- **When format and transport agree.**  In every run of a configured node whose accepted
updates neither make an mqtt node another nor another an mqtt node, every UDP client is
handed the text of the message and told to connect to the OBU, every MQTT client is handed its
content and told to connect to the broker. -/
theorem suited_of_reachable
    (reached : configuredNode.ReachableUnder KeepsTransport s) : s.Suited := by
  apply Matched.suited
  apply reached.invariant
  · rintro _ ⟨config, path, file, rfl⟩
    exact matched_configuring config path file
  · intro u a v matched allowed moved
    exact matched.step allowed moved

/-- A BSM to be sent. -/
def bsmMessage : ByteArrayMsg := ⟨"BSM", [0, 20]⟩

/-- A configured UDP node whose connect thread has run to its end. -/
def connectedUdp : List Action :=
  List.replicate 11 (Action.node .executor) ++ List.replicate 15 (Action.node (.thread true))

/-- The node as its first configure begins. -/
def firstConfigure : TransportNode :=
  configuring {} "share/v2x_ros_driver/etc/wave.json" (.accepted waveJson)

/-- An update that names another broker, and a message. -/
def updateBroker : List Action :=
  connectedUdp ++ [.update [⟨"broker_address", .string "obu"⟩], .outbound bsmMessage true]

def updatedNode : TransportNode :=
  (configuredNode.runUnder KeepsTransport firstConfigure updateBroker).getD firstConfigure

theorem firstConfigure_start : configuredNode.start firstConfigure := ⟨_, _, _, rfl⟩

theorem updatedNode_reached : configuredNode.ReachableUnder KeepsTransport updatedNode := by
  have succeeds : (configuredNode.runUnder KeepsTransport firstConfigure updateBroker).isSome =
      true := rfl
  exact System.reachableUnder_getD (.start firstConfigure_start) succeeds firstConfigure

theorem updatedNode_suited :
    updatedNode.handled = [bsmMessage] ∧ updatedNode.connectCalls.length = 1 ∧
      updatedNode.Suited :=
  ⟨rfl, rfl, suited_of_reachable updatedNode_reached⟩

/-- The protocol of a connected UDP node is changed, and a message arrives. -/
def switchProtocol : List Action :=
  connectedUdp ++ [.update [⟨"protocol", .string "mqtt"⟩], .outbound bsmMessage true]

def switchedNode : TransportNode :=
  (configuredNode.run firstConfigure switchProtocol).getD firstConfigure

/-- The client is a UDP client, and it is handed the raw content. -/
theorem udp_client_gets_raw_content : ¬ ∀ s, configuredNode.Reachable s → s.Suited := by
  intro suited
  have succeeds : (configuredNode.run firstConfigure switchProtocol).isSome = true := rfl
  have reached : configuredNode.Reachable switchedNode :=
    System.reachable_getD (.start firstConfigure_start) succeeds firstConfigure
  have handled : switchedNode.handled = [bsmMessage] := rfl
  have sendCalls : switchedNode.sendCalls = [⟨some 0, [0, 20], .ok true⟩] := rfl
  have udp : (switchedNode.clients 0).radio.isMqtt = false := rfl
  have sends := (suited switchedNode reached).sends
  rw [handled, sendCalls, List.forall₂_cons] at sends
  obtain ⟨⟨c, client, format⟩, -⟩ := sends
  cases client
  rw [udp] at format
  have text : packMessage switchedNode.waveCfgItems bsmMessage = .ok [0, 20] := format
  rw [packMessage_of_enough (.inr (by decide))] at text
  have first := congrArg List.head? (Except.ok.inj text)
  exact absurd first (by decide)

end TransportNode

end V2xRosDriver.Driver
