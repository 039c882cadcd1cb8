/-
# Driver.Inbound -- naming what the client delivers

`handle_on_configure` starts the connect thread long before it is done, so datagrams may
arrive while neither the tables nor the publisher are in place.  The node connects its
handler last: whatever was delivered before is lost, and whatever is delivered after finds
the publisher and the whole table (`Agrees`).  The client scans with a table of its own,
loaded from the same file when the first datagram asks for it, so an id it delivers is one
the node's table names (`inbound_named`).

To publish is to hand a message to `comms_pub_`; what the middleware does with it, before
the node is activated or after, is not part of this model.  A datagram may arrive at any
time there is a client, connected or not.
-/
import V2xRosDriver.Driver.Outbound
import V2xRosDriver.Driver.Steps
import V2xRosDriver.Radio.ProcessSteps

namespace V2xRosDriver.Driver

set_option autoImplicit false

open V2xRosDriver.Theory.Transition
open V2xRosDriver.Radio

/-! ## The node and its receive thread -/

/-- What `handle_on_configure` does behind the connection handlers, as far as it concerns
messages that arrive. -/
inductive LateInstr where
  | createPublisher
  | connectMessageReceived
  deriving DecidableEq

/-- The rest of `handle_on_configure`, in its order. -/
def lateConfigure : List LateInstr := [.createPublisher, .connectMessageReceived]

/-- The node with its publisher, once it exists, and what was handed to it, whether its handler
is connected, the rest of `handle_on_configure`, and the datagram the receive thread is at. -/
structure InboundNode extends Node where
  commsPub : Option (List ByteArrayMsg) := none
  handlerConnected : Bool := false
  late : List LateInstr := lateConfigure
  receiving : Option (List UInt8 × ProcessPc) := none

/-- Change the part of a client both transports share. -/
def RadioClient.withBase (base : BaseRadioClient) : RadioClient → RadioClient
  | .mqtt calls => .mqtt { calls with client := { calls.client with toBaseRadioClient := base } }
  | .udp calls => .udp { calls with client := { calls.client with toBaseRadioClient := base } }

/-- The actions that belong to a configure and its connect thread. -/
def Node.Action.configuring : Node.Action → Bool
  | .executor | .thread _ | .connack _ _ _ _ | .dropped _ _ | .error _ => true
  | _ => false

/-- The message type of an id: the name of the first entry that has it. -/
def messageTypeOf (items : List WaveConfigStruct) (id : Nat) : String :=
  match items.find? (·.dsrcMsgId == toString id) with
  | some entry => entry.name
  | none => "Unknown"

namespace InboundNode

inductive Action where
  | node (a : Node.Action)
  | late
  | datagram (data : List UInt8)
  | receive

def onMessageReceivedHandler (s : InboundNode) (data : List UInt8) (id : Nat) :
    Except Fault InboundNode :=
  match s.commsPub with
  | none => .error .badAccess
  | some published => .ok
      { s with commsPub := some (published ++ [⟨messageTypeOf s.waveCfgItems id, data⟩]) }

/-- What `onMessageReceived` does when it is raised: it calls the handler, if that is connected.
A fault of the handler ends the node's part. -/
def deliver (s : InboundNode) (message : List UInt8) (id : Nat) : InboundNode :=
  if s.handlerConnected then
    match s.onMessageReceivedHandler message id with
    | .ok handled => handled
    | .error _ => s
  else s

/-- One step of `process` on the receive thread. -/
def receive (files : WaveFiles) (s : InboundNode) : Option InboundNode :=
  match s.receiving, s.radioClient with
  | some (data, pc), some c =>
      let stepped := exec (processStep files data pc) (s.clients c).radio.base
      let scanned : InboundNode :=
        { s with
          toNode := s.toNode.onClient c (RadioClient.withBase stepped.2)
          receiving := none }
      match stepped.1, pc with
      | .ok (.goes next), _ => some { scanned with receiving := some (data, next) }
      | .ok (.returned ()), .raise message id => some (scanned.deliver message id)
      | _, _ => some scanned
  | _, _ => none

def step (files : WaveFiles) (s : InboundNode) : Action → Option InboundNode
  | .node a =>
      if a.configuring then
        match s.toNode.step a with
        | some node => some { s with toNode := node }
        | none => none
      else none
  | .late =>
      if s.toNode.Idle then
        match s.late with
        | .createPublisher :: rest => some { s with commsPub := some [], late := rest }
        | .connectMessageReceived :: rest => some
            { s with handlerConnected := true, late := rest }
        | [] => none
      else none
  | .datagram data =>
      if s.radioClient.isSome ∧ s.receiving.isNone then
        some { s with receiving := (ProcessPc.start data).map (data, ·) }
      else none
  | .receive => s.receive files

end InboundNode

/-- A node in its first configure, and datagrams; the file at `path` stays what it is. -/
def inboundNode (files : WaveFiles) (config : Config) (path : String) :
    System InboundNode InboundNode.Action where
  start s := s = { config := config, script := Node.handleOnConfigure path (files path) }
  step := InboundNode.step files

/-! ## What a client learns from the steps of a node -/

section Learned

variable {entries : List WaveConfigStruct} {path : String} {r r' : RadioClient}

theorem learned_congr {c d : BaseRadioClient} (learned : Learned entries path c)
    (ids : d.waveCfgDsrcMsgIds = c.waveCfgDsrcMsgIds) (file : d.waveFilePath = c.waveFilePath) :
    Learned entries path d :=
  ⟨by rw [ids]; exact learned.ids, by rw [file]; exact learned.file⟩

@[simp] theorem base_withBase (base : BaseRadioClient) (r : RadioClient) :
    (r.withBase base).base = base := by
  cases r <;> rfl

theorem learned_newRadioClient (config : Config) :
    Learned entries path (Node.newRadioClient config).base := by
  rw [Node.newRadioClient]
  split <;> exact ⟨fun _ among => absurd among List.not_mem_nil, .inl rfl⟩

theorem learned_beginConnect (learned : Learned entries path r.base) (endpoint : Endpoint) :
    Learned entries path (r.beginConnect endpoint).base := by
  cases r <;> exact learned

theorem learned_stepConnect (learned : Learned entries path r.base) (succeeds : Bool) :
    Learned entries path (r.stepConnect succeeds).base := by
  cases r with
  | mqtt calls =>
      simp only [RadioClient.stepConnect, RadioClient.base, Calls.stepConnect]
      cases calls.connectAt <;> exact learned
  | udp calls =>
      simp only [RadioClient.stepConnect, RadioClient.base, Calls.stepConnect]
      cases calls.connectAt with
      | none => exact learned
      | some call =>
          obtain ⟨endpoint, pc⟩ := call
          refine learned_congr learned ?_ ?_ <;>
          · cases pc <;> cases succeeds <;>
              simp only [Udp.UdpRadioClient.connectStep] <;> first | rfl | (split <;> rfl)

theorem learned_stepClose (learned : Learned entries path r.base) :
    Learned entries path r.stepClose.base := by
  cases r with
  | mqtt calls =>
      simp only [RadioClient.stepClose, RadioClient.base, Calls.stepClose]
      cases calls.closeAt with
      | none => exact learned
      | some pc =>
          simp only [Mqtt.MqttRadioClient.closeStep]
          split <;> exact learned_congr learned rfl rfl
  | udp calls =>
      simp only [RadioClient.stepClose, RadioClient.base, Calls.stepClose]
      cases calls.closeAt with
      | none => exact learned
      | some pc =>
          refine learned_congr learned ?_ ?_ <;>
          · cases pc <;> simp only [Udp.UdpRadioClient.closeStep] <;>
              first | rfl | (split <;> rfl)

/-- What is served is told of no other file than that of the callback. -/
theorem learned_serves {script : List Instr} (learned : Learned entries path r.base)
    (told : ∀ p, .setWaveFilePath p ∈ script → p = path) (serves : Serves script r r') :
    Learned entries path r'.base := by
  cases serves with
  | nothing => exact learned
  | setWaveFilePath due =>
      have same := told _ due
      cases r <;> exact ⟨learned.ids, .inr same⟩
  | beginClose => cases r <;> exact learned
  | stepClose => exact learned_stepClose learned
  | connack answer =>
      obtain ⟨calls, rfl, -, rfl⟩ := RadioClient.connack_cases answer
      refine learned_congr learned ?_ ?_ <;>
      · simp only [RadioClient.base, Mqtt.MqttRadioClient.handleConnect,
          Mqtt.MqttRadioClient.subscribeToTopics]
        split
        · split <;> rfl
        · rfl
  | dropped answer =>
      obtain ⟨calls, rfl, -, rfl⟩ := RadioClient.dropped_cases answer
      exact learned

end Learned

/-! ## The invariant -/

namespace InboundNode

/-- The handler is connected last, the publisher and the table are complete before, and the
clients have learned from the node's file alone. -/
structure Agrees (entries : List WaveConfigStruct) (path : String) (s : InboundNode) : Prop where
  table : s.waveCfgItems ++ dueEntries s.script = entries
  told : ∀ p, .setWaveFilePath p ∈ s.script → p = path
  order : s.late = lateConfigure ∨
    s.script = [] ∧ s.commsPub.isSome = true ∧ (s.late = [.connectMessageReceived] ∨ s.late = [])
  connected : s.handlerConnected = true → s.late = []
  learned : ∀ c, Learned entries path (s.clients c).radio.base
  named : ∀ data pc, s.receiving = some (data, pc) → pc.Named entries

variable {files : WaveFiles} {entries : List WaveConfigStruct} {path : String}
  {s t : InboundNode}

theorem agrees_start (valid : files path = .accepted entries) (config : Config) :
    Agrees entries path
      { config := config, script := Node.handleOnConfigure path (files path) } where
  table := by
    simp [Node.handleOnConfigure, Node.preSpin, dueEntries, valid, WaveFile.entries]
  told p due := by
    simpa [Node.handleOnConfigure, Node.preSpin] using due
  order := .inl rfl
  connected := nofun
  learned c := ⟨nofun, .inl rfl⟩
  named := nofun

/-- A step of the node that appends no entry and sets no path but those due. -/
theorem Agrees.node (agrees : Agrees entries path s) {node : Node}
    (table : node.waveCfgItems ++ dueEntries node.script =
      s.waveCfgItems ++ dueEntries s.script)
    (script : ∀ later ∈ node.script, later ∈ s.script ∨ later.pushed = true)
    (ended : s.script = [] → node.script = [])
    (learned : ∀ c, Learned entries path (node.clients c).radio.base) :
    Agrees entries path { s with toNode := node } where
  table := table.trans agrees.table
  told p due := by
    rcases script _ due with before | pushed
    · exact agrees.told p before
    · cases pushed
  order := agrees.order.imp id fun done => ⟨ended done.1, done.2⟩
  connected := agrees.connected
  learned := learned
  named := agrees.named

theorem Agrees.executorStep (agrees : Agrees entries path s) {node : Node}
    (moved : s.toNode.executorStep = some node) :
    Agrees entries path { s with toNode := node } := by
  have learned (c : Nat) : Learned entries path (node.clients c).radio.base := by
    rcases executorStep_serves moved c with ⟨served, -⟩ | ⟨-, -, served⟩
    · exact learned_serves (agrees.learned c) agrees.told served
    · exact learned_serves (learned_newRadioClient s.config) agrees.told served
  rcases executorStep_cases moved with ⟨c, -, rfl⟩ | ⟨c, -, -, rfl⟩ |
    ⟨instr, rest, -, -, script, executed⟩
  · exact agrees.node rfl (fun _ => .inl) id learned
  · exact agrees.node rfl (fun _ => .inl) id learned
  · have does := execute_does executed
    refine agrees.node ?_ (fun later waits => ?_) (fun ended => ?_) learned
    · rw [does.dueEntries, ← script]
    · exact (does.script waits).imp (fun before => script ▸ List.mem_cons_of_mem _ before) id
    · rw [script] at ended
      cases ended

theorem Agrees.threadStep (agrees : Agrees entries path s) {succeeds : Bool} {node : Node}
    (moved : s.toNode.threadStep succeeds = some node) :
    Agrees entries path { s with toNode := node } := by
  rcases threadStep_cases moved with ⟨c, -, -, rfl⟩ | ⟨c, -, rfl⟩ | ⟨-, rfl⟩
  · refine agrees.node rfl (fun _ => .inl) id fun d => ?_
    exact s.toNode.forall_onClient (P := fun _ radio => Learned entries path radio.base)
      (learned_beginConnect (agrees.learned c) _) (fun d _ => agrees.learned d) d
  · refine agrees.node rfl (fun _ => .inl) id fun d => ?_
    exact s.toNode.forall_onClient (P := fun _ radio => Learned entries path radio.base)
      (learned_stepConnect (agrees.learned c) _) (fun d _ => agrees.learned d) d
  · exact agrees.node rfl (fun _ => .inl) id agrees.learned

theorem Agrees.callBack (agrees : Agrees entries path s) {c : Nat}
    {answer : RadioClient → Option RadioClient} {node : Node}
    (serves : ∀ r answered, answer r = some answered → Serves s.script r answered)
    (moved : s.toNode.callBack c answer = some node) :
    Agrees entries path { s with toNode := node } := by
  obtain ⟨radio, served, rfl⟩ := callBack_serves serves moved
  refine agrees.node rfl (fun _ => .inl) id fun d => ?_
  exact learned_serves (agrees.learned d) agrees.told (serves_onClient s.toNode served d)

/-- A step of the node. -/
theorem Agrees.nodeStep (agrees : Agrees entries path s) {a : Node.Action}
    (configuring : a.configuring = true) {node : Node} (moved : s.toNode.step a = some node) :
    Agrees entries path { s with toNode := node } := by
  cases a with
  | executor => exact agrees.executorStep moved
  | thread succeeds => exact agrees.threadStep moved
  | connack c handle rc accepted => exact agrees.callBack (fun _ _ => .connack) moved
  | dropped c handle => exact agrees.callBack (fun _ _ => .dropped) moved
  | error c =>
      obtain ⟨-, rfl⟩ := error_cases moved
      exact agrees.node rfl (fun _ => .inl) id agrees.learned
  | _ => cases configuring

/-! ## The receive thread -/

/-- The client scans on: what it learned and where its thread stands. -/
theorem Agrees.scan (agrees : Agrees entries path s) {c : Nat} {base : BaseRadioClient}
    (learned : Learned entries path base) {receiving : Option (List UInt8 × ProcessPc)}
    (named : ∀ data pc, receiving = some (data, pc) → pc.Named entries) :
    Agrees entries path
      { s with
        toNode := s.toNode.onClient c (RadioClient.withBase base)
        receiving := receiving } where
  table := agrees.table
  told := agrees.told
  order := agrees.order
  connected := agrees.connected
  learned := s.toNode.forall_onClient (P := fun _ radio => Learned entries path radio.base)
    (by rw [base_withBase]; exact learned) fun d _ => agrees.learned d
  named := named

theorem Agrees.deliver (agrees : Agrees entries path s) (message : List UInt8) (id : Nat) :
    Agrees entries path (s.deliver message id) := by
  rw [InboundNode.deliver]
  split
  · simp only [onMessageReceivedHandler]
    cases s.commsPub with
    | none => exact agrees
    | some published =>
        exact ⟨agrees.table, agrees.told, agrees.order.imp (fun late => late)
          fun done => ⟨done.1, rfl, done.2.2⟩, agrees.connected, agrees.learned, agrees.named⟩
  · exact agrees

theorem Agrees.receive (agrees : Agrees entries path s) (valid : files path = .accepted entries)
    (moved : s.receive files = some t) : Agrees entries path t := by
  simp only [InboundNode.receive] at moved
  split at moved
  · rename_i data pc c at_ points
    have none_ : ∀ data pc, (none : Option (List UInt8 × ProcessPc)) = some (data, pc) →
        pc.Named entries := fun _ _ same => by cases same
    obtain ⟨learned, onward⟩ :=
      (agrees.learned c).processStep valid data (agrees.named data pc at_)
    split at moved
    · rename_i next goes
      cases moved
      apply agrees.scan learned
      intro data' pc' same
      cases same
      exact onward next goes
    · cases moved
      exact (agrees.scan learned none_).deliver _ _
    · cases moved
      exact agrees.scan learned none_
  · cases moved

/-- A datagram arrives. -/
theorem Agrees.datagram (agrees : Agrees entries path s) {data : List UInt8}
    (moved : s.step files (.datagram data) = some t) : Agrees entries path t := by
  simp only [InboundNode.step, Option.ite_none_right_eq_some, Option.some.injEq] at moved
  obtain ⟨-, rfl⟩ := moved
  refine ⟨agrees.table, agrees.told, agrees.order, agrees.connected, agrees.learned, ?_⟩
  intro data' pc same
  simp only [ProcessPc.start] at same
  split at same
  · cases same
  · cases same
    trivial

/-! ## The rest of the configure -/

theorem step_late_cases (moved : s.step files .late = some t) :
    s.script = [] ∧
      ((∃ rest, s.late = .createPublisher :: rest ∧
          t = { s with commsPub := some [], late := rest }) ∨
        ∃ rest, s.late = .connectMessageReceived :: rest ∧
          t = { s with handlerConnected := true, late := rest }) := by
  simp only [InboundNode.step] at moved
  split at moved
  · rename_i idle
    split at moved
    · rename_i rest late
      exact ⟨idle.1, .inl ⟨rest, late, (Option.some.inj moved).symm⟩⟩
    · rename_i rest late
      exact ⟨idle.1, .inr ⟨rest, late, (Option.some.inj moved).symm⟩⟩
    · cases moved
  · cases moved

/-- The publisher is made first, the handler is connected behind it. -/
theorem Agrees.late (agrees : Agrees entries path s) (moved : s.step files .late = some t) :
    Agrees entries path t := by
  obtain ⟨ended, ⟨rest, late, rfl⟩ | ⟨rest, late, rfl⟩⟩ := step_late_cases moved
  · have behind : rest = [.connectMessageReceived] := by
      rcases agrees.order with all | ⟨-, -, one | none_⟩
      · rw [late] at all
        exact (List.cons.inj all).2
      · rw [late] at one
        cases one
      · rw [late] at none_
        cases none_
    refine ⟨agrees.table, agrees.told, .inr ⟨ended, rfl, .inl behind⟩, fun connected => ?_,
      agrees.learned, agrees.named⟩
    have none_ := agrees.connected connected
    rw [late] at none_
    cases none_
  · rcases agrees.order with all | ⟨-, publisher, one | none_⟩
    · rw [late] at all
      cases all
    · rw [late] at one
      have behind := (List.cons.inj one).2
      exact ⟨agrees.table, agrees.told, .inr ⟨ended, publisher, .inr behind⟩,
        fun _ => behind, agrees.learned, agrees.named⟩
    · rw [late] at none_
      cases none_

/-! ## Runs -/

/-- One step. -/
theorem Agrees.step (agrees : Agrees entries path s) (valid : files path = .accepted entries)
    {a : Action} (moved : s.step files a = some t) : Agrees entries path t := by
  cases a with
  | node a =>
      simp only [InboundNode.step] at moved
      split at moved
      · rename_i configuring
        split at moved
        · rename_i node stepped
          cases moved
          exact agrees.nodeStep configuring stepped
        · cases moved
      · cases moved
  | late => exact agrees.late moved
  | datagram data => exact agrees.datagram moved
  | receive => exact agrees.receive valid moved

/-- The id of an entry names it. -/
theorem find_of_mem {id : Nat} (named : toString id ∈ entries.map (·.dsrcMsgId)) :
    ∃ entry, entries.find? (·.dsrcMsgId == toString id) = some entry := by
  obtain ⟨entry, among, same⟩ := List.mem_map.mp named
  rw [← Option.isSome_iff_exists, List.find?_isSome]
  exact ⟨entry, among, beq_iff_eq.mpr same⟩

/-- The step that raises the signal. -/
theorem receive_raise {data message : List UInt8} {id : Nat}
    (delivers : s.receiving = some (data, .raise message id)) (taken : s.receive files = some t) :
    ∃ node : Node, node.waveCfgItems = s.waveCfgItems ∧
      t = ({ s with toNode := node, receiving := none } : InboundNode).deliver message id := by
  simp only [InboundNode.receive, delivers] at taken
  cases points : s.radioClient with
  | none =>
      rw [points] at taken
      cases taken
  | some c =>
      rw [points] at taken
      refine ⟨_, ?_, (Option.some.inj taken).symm⟩
      rfl

/-- A connected handler with a publisher publishes the message once. -/
theorem deliver_commsPub {published : List ByteArrayMsg} (connected : s.handlerConnected = true)
    (inPlace : s.commsPub = some published) (message : List UInt8) (id : Nat) :
    (s.deliver message id).commsPub =
      some (published ++ [⟨messageTypeOf s.waveCfgItems id, message⟩]) := by
  rw [InboundNode.deliver, if_pos connected, onMessageReceivedHandler]
  simp only [inPlace]

/-- **What is delivered is published under its name.**  In every run of a first configure and of
the datagrams that arrive meanwhile, a message the client delivers to the connected handler
finds the publisher and the whole table in place, and is published once, with its bytes and
with the name of the first entry of the file that has its id. -/
theorem inbound_named (valid : files path = .accepted entries) {config : Config}
    (reached : (inboundNode files config path).Reachable s) {data message : List UInt8} {id : Nat}
    (delivers : s.receiving = some (data, .raise message id))
    (connected : s.handlerConnected = true)
    (taken : s.step files .receive = some t) :
    s.waveCfgItems = entries ∧ ∃ published entry, s.commsPub = some published ∧
      entries.find? (·.dsrcMsgId == toString id) = some entry ∧
      t.commsPub = some (published ++ [⟨entry.name, message⟩]) := by
  have agrees : Agrees entries path s := by
    apply reached.invariant
    · rintro _ rfl
      exact agrees_start valid config
    · intro u a v agrees _ moved
      exact agrees.step valid moved
  have late := agrees.connected connected
  obtain ⟨ended, publisher, -⟩ : s.script = [] ∧ s.commsPub.isSome = true ∧ _ := by
    refine agrees.order.resolve_left fun all => ?_
    rw [late] at all
    cases all
  obtain ⟨published, inPlace⟩ := Option.isSome_iff_exists.mp publisher
  obtain ⟨entry, found⟩ := find_of_mem (agrees.named data _ delivers)
  have table := agrees.table
  rw [ended, show dueEntries [] = [] from rfl, List.append_nil] at table
  refine ⟨table, published, entry, inPlace, found, ?_⟩
  obtain ⟨node, same, rfl⟩ := receive_raise delivers taken
  rw [deliver_commsPub (s := ({ s with toNode := node, receiving := none } : InboundNode))
    connected inPlace]
  have name : messageTypeOf node.waveCfgItems id = entry.name := by
    rw [same, table, messageTypeOf, found]
  rw [← name]

/-- A BSM frame with a payload of one byte. -/
def bsmDatagram : List UInt8 := [0, 20, 1, 0]

/-- The frame arrives twice: while the client has no file yet, and when all is in place.  The
second time the client has found its id and is about to raise its signal. -/
def arriveTwice : List Action :=
  List.replicate 3 (Action.node .executor) ++ [Action.datagram bsmDatagram, .receive, .receive] ++
    List.replicate 8 (Action.node .executor) ++ List.replicate 15 (Action.node (.thread true)) ++
    [Action.late, .late, .datagram bsmDatagram, .receive, .receive]

def configuringNode : InboundNode :=
  { script := Node.handleOnConfigure "share/v2x_ros_driver/etc/wave.json"
      (shippedFiles "share/v2x_ros_driver/etc/wave.json") }

def deliveringNode : InboundNode :=
  ((inboundNode shippedFiles {} "share/v2x_ros_driver/etc/wave.json").run configuringNode
    arriveTwice).getD configuringNode

theorem deliveringNode_reached :
    (inboundNode shippedFiles {} "share/v2x_ros_driver/etc/wave.json").Reachable
      deliveringNode := by
  have start : (inboundNode shippedFiles {} "share/v2x_ros_driver/etc/wave.json").start
      configuringNode := rfl
  have succeeds : ((inboundNode shippedFiles {} "share/v2x_ros_driver/etc/wave.json").run
      configuringNode arriveTwice).isSome = true := by decide +kernel
  exact System.reachable_getD (.start start) succeeds configuringNode

def deliveredNode : InboundNode :=
  (deliveringNode.step shippedFiles .receive).getD configuringNode

theorem bsmDatagram_named :
    deliveringNode.waveCfgItems = waveJson ∧ ∃ published entry,
      deliveringNode.commsPub = some published ∧
      waveJson.find? (·.dsrcMsgId == toString 20) = some entry ∧
      deliveredNode.commsPub = some (published ++ [⟨entry.name, bsmDatagram⟩]) := by
  have valid : shippedFiles "share/v2x_ros_driver/etc/wave.json" = .accepted waveJson := rfl
  have delivers : deliveringNode.receiving = some (bsmDatagram, .raise bsmDatagram 20) := by
    decide +kernel
  have connected : deliveringNode.handlerConnected = true := by decide +kernel
  have succeeds : (deliveringNode.step shippedFiles .receive).isSome = true := by decide +kernel
  have taken : deliveringNode.step shippedFiles .receive = some deliveredNode := by
    obtain ⟨node, step⟩ := Option.isSome_iff_exists.mp succeeds
    rw [deliveredNode, step, Option.getD_some]
  exact inbound_named valid deliveringNode_reached delivers connected taken

end InboundNode

end V2xRosDriver.Driver
