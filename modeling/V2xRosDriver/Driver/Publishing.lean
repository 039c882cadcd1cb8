/-
# Driver.Publishing -- every message once, in order

The receive thread may be inside a datagram at any moment: when the path of the wave file is
set, when the publisher is made, when the handler is connected, when a reconnect closes the
client.  Once the handler is connected nothing is lost and nothing is published twice: what was
published is what the datagrams that arrived since deliver over the table of the file, in their
order, but for the one that is still being scanned; in front of it stands what the datagram
raised the scan was in when the handler was connected, one message at most
(`published_in_order`).

There is one receive thread at a time.  Over UDP a reconnect joins it in `close`; over MQTT it
may leave a second one behind, so that only the first configure of an MQTT node is followed
here.
-/
import V2xRosDriver.Driver.Preparation
import V2xRosDriver.Driver.RoundTrip

namespace V2xRosDriver.Driver

set_option autoImplicit false

open V2xRosDriver.Theory.Transition
open V2xRosDriver.Radio

/-! ## The node and what arrived -/

/-- The node with the datagrams that arrived since its handler was connected. -/
structure PublishingNode extends InboundNode where
  arrived : List (List UInt8) := []

namespace PublishingNode

inductive Action where
  | inbound (a : InboundNode.Action)
  | reconnect
  | shutdown

def arrives (s : InboundNode) : InboundNode.Action → List (List UInt8)
  | .datagram data => if s.handlerConnected then [data] else []
  | _ => []

/-- Once the configure has returned a UDP node may be told to reconnect, any node to shut down. -/
def step (files : WaveFiles) (s : PublishingNode) : Action → Option PublishingNode
  | .inbound a =>
      match InboundNode.step files s.toInboundNode a with
      | some next => some
          { toInboundNode := next, arrived := s.arrived ++ arrives s.toInboundNode a }
      | none => none
  | .reconnect =>
      if s.late = [] ∧ s.config.protocol ≠ "mqtt" then
        match s.toNode.step .reconnect with
        | some node => some { s with toNode := node }
        | none => none
      else none
  | .shutdown =>
      if s.late = [] then
        match s.toNode.step .shutdown with
        | some node => some { s with toNode := node }
        | none => none
      else none

/-- A node from its first configure on, and datagrams. -/
def system (files : WaveFiles) (config : Config) (path : String) :
    System PublishingNode Action where
  start s := s = { config := config, script := Node.handleOnConfigure path (files path) }
  step := step files

end PublishingNode

/-! ## The receive thread -/

namespace PublishingNode

section Kept

variable {files : WaveFiles} {entries : List WaveConfigStruct} {path : String}

/-- What a step of the receive thread is: it goes on, it raises its message, or it leaves
`process` without one. -/
theorem receive_cases {s t : InboundNode} (moved : s.receive files = some t) :
    ∃ c data pc result after, s.radioClient = some c ∧ s.receiving = some (data, pc) ∧
      exec (processStep files data pc) (s.clients c).radio.base = (result, after) ∧
      ∃ scanned : Node, scanned = s.toNode.onClient c (RadioClient.withBase after) ∧
        ((∃ next, result = .ok (.goes next) ∧
            t = { s with toNode := scanned, receiving := some (data, next) }) ∨
          (∃ message id, pc = .raise message id ∧
            t = ({ s with toNode := scanned, receiving := none } : InboundNode).deliver
              message id) ∨
          (∀ next, result ≠ .ok (.goes next)) ∧ pc.raises = [] ∧
            t = { s with toNode := scanned, receiving := none }) := by
  simp only [InboundNode.receive] at moved
  split at moved
  · rename_i data pc c at_ points
    rcases ran : exec (processStep files data pc) (s.clients c).radio.base with ⟨result, after⟩
    refine ⟨c, data, pc, result, after, points, at_, ran, _, rfl, ?_⟩
    rw [ran] at moved
    simp only at moved
    split at moved
    · rename_i next
      exact .inl ⟨next, rfl, (Option.some.inj moved).symm⟩
    · rename_i message id
      exact .inr (.inl ⟨message, id, rfl, (Option.some.inj moved).symm⟩)
    · rename_i notGoes notRaise
      refine .inr (.inr ⟨notGoes, ?_, (Option.some.inj moved).symm⟩)
      cases pc with
      | raise message id =>
          have returned := congrArg Prod.fst ran
          exact absurd rfl (notRaise message id returned.symm)
      | _ => rfl
  · cases moved

theorem deliver_unconnected (s : InboundNode) (message : List UInt8) (id : Nat)
    (unconnected : s.handlerConnected = false) : s.deliver message id = s :=
  if_neg (by rw [unconnected]; exact Bool.false_ne_true)

theorem deliver_connected (s : InboundNode) (message : List UInt8) (id : Nat)
    (connected : s.handlerConnected = true) {messages : List ByteArrayMsg}
    (out : s.commsPub = some messages) :
    s.deliver message id =
      { s with commsPub := some (messages ++ [⟨messageTypeOf s.waveCfgItems id, message⟩]) } := by
  simp only [InboundNode.deliver, connected, if_true, InboundNode.onMessageReceivedHandler, out]

/-- The books of a connected handler: what the client has raised since is published, and will be,
once the scan in flight is over, the message of an earlier datagram at most and what the
datagrams that arrived since deliver. -/
def Booked (files : WaveFiles) (entries : List WaveConfigStruct) (path : String)
    (s : PublishingNode) : Prop :=
  ∃ c before raised early, s.radioClient = some c ∧ early.length ≤ 1 ∧
    (s.clients c).radio.base.onMessageReceived = before ++ raised ∧
    s.commsPub = some (published entries raised) ∧
    settledLog files s.receiving (s.clients c).radio.base =
      before ++ (early ++ s.arrived.flatMap (delivered (tableAt files path)))

/-- How far the node has come: its handler is connected last, behind a publisher with nothing
published. -/
inductive Phase (files : WaveFiles) (entries : List WaveConfigStruct) (path : String)
    (s : PublishingNode) : Prop
  | configuring (late : s.late = lateConfigure) (unconnected : s.handlerConnected = false)
      (nothing : s.arrived = [])
  | publisher (late : s.late = [.connectMessageReceived])
      (unconnected : s.handlerConnected = false) (nothing : s.arrived = [])
      (calm : Calm s.script) (out : s.commsPub = some [])
  | connected (late : s.late = []) (connected : s.handlerConnected = true)
      (calm : Calm s.script) (booked : Booked files entries path s)

structure Kept (files : WaveFiles) (entries : List WaveConfigStruct) (path : String)
    (s : PublishingNode) : Prop where
  prepared : Prepared files path s.toNode
  table : s.waveCfgItems ++ dueEntries s.script = entries
  phase : Phase files entries path s

variable {s t : PublishingNode}

theorem kept_start (valid : files path = .accepted entries) (config : Config) :
    Kept files entries path
      { config := config, script := Node.handleOnConfigure path (files path) } where
  prepared := prepared_start files config path
  table := by
    simp [Node.handleOnConfigure, Node.preSpin, dueEntries, valid, WaveFile.entries]
  phase := .configuring rfl rfl rfl

/-- The books do not depend on what the node does beside its client, its publisher and its receive
thread. -/
theorem Booked.calm (booked : Booked files entries path s) {node : Node}
    (points : node.radioClient = s.radioClient)
    (bases : ∀ d, Signalled (s.clients d).radio.base (node.clients d).radio.base) :
    Booked files entries path { s with toNode := node } := by
  obtain ⟨c, before, raised, early, points', short, log, out, settled⟩ := booked
  obtain ⟨signals, same⟩ := bases c
  refine ⟨c, before, raised, early, points.trans points', short, ?_, out, ?_⟩
  · rw [same]
    exact log
  · simp only [same]
    rw [settledLog_withSignals]
    exact settled

theorem Kept.nodeStep (kept : Kept files entries path s) {a : Node.Action}
    (configuring : a.configuring = true) {node : Node} (moved : s.toNode.step a = some node) :
    Kept files entries path { s with toNode := node } where
  prepared := kept.prepared.nodeStep configuring moved
  table := by
    rcases configuring_cases kept.prepared.deleting configuring moved with
      beside | ⟨instr, rest, script, executed⟩
    · rw [beside.items, beside.script]
      exact kept.table
    · rw [(execute_does executed).dueEntries, ← script]
      exact kept.table
  phase := by
    cases kept.phase with
    | configuring late unconnected nothing => exact .configuring late unconnected nothing
    | publisher late unconnected nothing calm out =>
        have stepped := calm_step kept.prepared.deleting calm configuring moved
        exact .publisher late unconnected nothing stepped.script out
    | connected late connected calm booked =>
        have stepped := calm_step kept.prepared.deleting calm configuring moved
        exact .connected late connected stepped.script
          (booked.calm stepped.points stepped.bases)

/-- A callback behind the configure. -/
theorem Kept.call (kept : Kept files entries path s) (late : s.late = []) (over_ : s.script = [])
    {script : List Instr} (calm : Calm script) :
    Kept files entries path { s with script := script } where
  prepared := kept.prepared.call over_ calm
  table := by
    have table := kept.table
    rw [over_] at table
    rw [calm.dueEntries]
    exact table
  phase := by
    cases kept.phase with
    | configuring all | publisher all =>
        rw [late] at all
        cases all
    | connected late connected before booked =>
        exact .connected late connected calm (booked.calm rfl fun d => .refl _)

theorem Kept.late (kept : Kept files entries path s) {next : InboundNode}
    (moved : s.toInboundNode.step files .late = some next) :
    Kept files entries path { toInboundNode := next, arrived := s.arrived } := by
  obtain ⟨ended, ⟨rest, due, rfl⟩ | ⟨rest, due, rfl⟩⟩ := InboundNode.step_late_cases moved
  · refine ⟨kept.prepared, kept.table, ?_⟩
    cases kept.phase with
    | configuring late unconnected nothing =>
        rw [due] at late
        cases late
        exact .publisher rfl unconnected nothing (by rw [ended]; exact calm_nil) rfl
    | publisher late | connected late =>
        rw [due] at late
        cases late
  · refine ⟨kept.prepared, kept.table, ?_⟩
    cases kept.phase with
    | publisher late unconnected nothing calm out =>
        rw [due] at late
        cases late
        obtain ⟨c, points, -⟩ := kept.prepared.told calm
        obtain ⟨loaded, aligned, -⟩ := kept.prepared.scans c
        obtain ⟨early, short, settled, -⟩ := @settledLog_once files _ _ aligned s.receiving
        refine .connected rfl rfl calm ⟨c, (s.clients c).radio.base.onMessageReceived, [], early,
          points, short, (List.append_nil _).symm, out, ?_⟩
        rw [nothing, List.flatMap_nil, List.append_nil]
        exact settled
    | configuring late | connected late =>
        rw [due] at late
        cases late

theorem Kept.datagram (kept : Kept files entries path s) {data : List UInt8}
    {next : InboundNode} (moved : s.toInboundNode.step files (.datagram data) = some next) :
    Kept files entries path
      { toInboundNode := next
        arrived := s.arrived ++ arrives s.toInboundNode (.datagram data) } := by
  simp only [InboundNode.step, Option.ite_none_right_eq_some, Option.some.injEq] at moved
  obtain ⟨⟨-, landed⟩, rfl⟩ := moved
  refine ⟨kept.prepared, kept.table, ?_⟩
  cases kept.phase with
  | configuring late unconnected nothing =>
      exact .configuring late unconnected (by simp [arrives, nothing, unconnected])
  | publisher late unconnected nothing calm out =>
      exact .publisher late unconnected (by simp [arrives, nothing, unconnected]) calm out
  | connected late connected calm booked =>
      obtain ⟨c, before, raised, early, points, short, log, out, settled⟩ := booked
      obtain ⟨d, points', told⟩ := kept.prepared.told calm
      obtain rfl : c = d := Option.some.inj (points.symm.trans points')
      refine .connected late connected calm
        ⟨c, before, raised, early, points, short, log, out, ?_⟩
      rw [Option.isNone_iff_eq_none.mp landed] at settled
      simp only [arrives, connected, if_true, List.flatMap_append, List.flatMap_singleton]
      rw [settledLog_start, (kept.prepared.scans c).process told]
      simp only [settledLog] at settled
      rw [settled, List.append_assoc, List.append_assoc]

/-- A step of the scan in flight: the signal it raises is published, and what will be raised is as
before. -/
theorem Booked.scan (booked : Booked files entries path s) {c : Nat}
    (points : s.radioClient = some c) {data : List UInt8} {pc : ProcessPc}
    (at_ : s.receiving = some (data, pc)) {after : BaseRadioClient}
    (log : after.onMessageReceived =
      (s.clients c).radio.base.onMessageReceived ++ pc.raises)
    {flight : Option (List UInt8 × ProcessPc)}
    (onward : settledLog files flight after =
      settledLog files (some (data, pc)) (s.clients c).radio.base)
    {commsPub : Option (List ByteArrayMsg)}
    (out : ∀ messages, s.commsPub = some messages →
      commsPub = some (messages ++ published entries pc.raises)) :
    Booked files entries path
      { s with
        toNode := s.toNode.onClient c (RadioClient.withBase after)
        commsPub := commsPub
        receiving := flight } := by
  obtain ⟨d, before, raised, early, points', short, raisedSo, outSo, settled⟩ := booked
  obtain rfl : c = d := Option.some.inj (points.symm.trans points')
  have scanned : ((s.toNode.onClient c (RadioClient.withBase after)).clients c).radio.base =
      after := by
    simp only [Node.onClient, Function.update_self, base_withBase]
  refine ⟨c, before, raised ++ pc.raises, early, points, short, ?_, ?_, ?_⟩
  · rw [scanned, log, raisedSo, List.append_assoc]
  · rw [published, List.map_append]
    exact out _ outSo
  · rw [at_] at settled
    rw [scanned, onward]
    exact settled

theorem Phase.scan (phase : Phase files entries path s) {c : Nat}
    (points : s.radioClient = some c) {data : List UInt8} {pc : ProcessPc}
    (at_ : s.receiving = some (data, pc)) {after : BaseRadioClient}
    (log : after.onMessageReceived =
      (s.clients c).radio.base.onMessageReceived ++ pc.raises)
    {flight : Option (List UInt8 × ProcessPc)}
    (onward : settledLog files flight after =
      settledLog files (some (data, pc)) (s.clients c).radio.base)
    {commsPub : Option (List ByteArrayMsg)}
    (lost : s.handlerConnected = false → commsPub = s.commsPub)
    (heard : s.handlerConnected = true → ∀ messages, s.commsPub = some messages →
      commsPub = some (messages ++ published entries pc.raises)) :
    Phase files entries path
      { s with
        toNode := s.toNode.onClient c (RadioClient.withBase after)
        commsPub := commsPub
        receiving := flight } := by
  cases phase with
  | configuring late unconnected nothing => exact .configuring late unconnected nothing
  | publisher late unconnected nothing calm out =>
      exact .publisher late unconnected nothing calm ((lost unconnected).trans out)
  | connected late connected calm booked =>
      exact .connected late connected calm (booked.scan points at_ log onward (heard connected))

/-- Behind the configure the table is whole. -/
theorem Kept.items (kept : Kept files entries path s) (connected : s.handlerConnected = true) :
    s.waveCfgItems = entries := by
  have table := kept.table
  cases kept.phase with
  | configuring late unconnected | publisher late unconnected =>
      exact absurd (unconnected.symm.trans connected) Bool.noConfusion
  | connected late connected calm booked =>
      rwa [calm.dueEntries, List.append_nil] at table

/-- A connected handler has a publisher. -/
theorem Kept.inPlace (kept : Kept files entries path s) (connected : s.handlerConnected = true) :
    ∃ messages, s.commsPub = some messages := by
  cases kept.phase with
  | configuring late unconnected | publisher late unconnected =>
      exact absurd (unconnected.symm.trans connected) Bool.noConfusion
  | connected late connected calm booked =>
      obtain ⟨_, _, raised, _, _, _, _, out, _⟩ := booked
      exact ⟨_, out⟩

theorem Kept.receive (kept : Kept files entries path s) {next : InboundNode}
    (moved : s.toInboundNode.receive files = some next) :
    Kept files entries path { toInboundNode := next, arrived := s.arrived } := by
  obtain ⟨c, data, pc, result, after, points, at_, ran, scanned, rfl, happens⟩ :=
    receive_cases moved
  obtain ⟨loaded, aligned, -⟩ := kept.prepared.scans c
  have stepped := @Aligned.stepped files data _ loaded aligned pc
  have log : after.onMessageReceived =
      (s.clients c).radio.base.onMessageReceived ++ pc.raises := by
    obtain ⟨looked, -, client⟩ := stepped.client
    rw [ran] at client
    simp only at client
    rw [client]
  have prepared := kept.prepared.scan c data pc
  rw [ran] at prepared stepped
  -- without a signal the publisher is not touched
  have still (quiet : pc.raises = []) (_ : s.handlerConnected = true) (messages : List ByteArrayMsg)
      (out : s.commsPub = some messages) :
      s.commsPub = some (messages ++ published entries pc.raises) := by
    rw [quiet, published, List.map_nil, List.append_nil]
    exact out
  rcases happens with ⟨next, rfl, rfl⟩ | ⟨message, id, rfl, rfl⟩ | ⟨stops, quiet, rfl⟩
  · have quiet : pc.raises = [] := (stepped.goes next rfl).2
    exact ⟨prepared, kept.table,
      kept.phase.scan points at_ log (settledLog_goes ran) (fun _ => rfl) (still quiet)⟩
  · have settled := settledLog_stops ran fun next same => by
      have returned : result = .ok (.returned ()) := (congrArg Prod.fst ran).symm
      rw [returned] at same
      cases same
    rcases Bool.eq_false_or_eq_true s.handlerConnected with now | now
    · obtain ⟨messages, out⟩ := kept.inPlace now
      have handled := deliver_connected
        { s.toInboundNode with
          toNode := s.toNode.onClient c (RadioClient.withBase after)
          receiving := none } message id now out
      rw [handled]
      refine ⟨prepared, kept.table, kept.phase.scan points at_ log settled
        (fun unconnected => absurd (unconnected.symm.trans now) Bool.noConfusion)
        fun _ others same => ?_⟩
      obtain rfl : messages = others := Option.some.inj (out.symm.trans same)
      rw [← kept.items now]
      rfl
    · have lost := deliver_unconnected
        { s.toInboundNode with
          toNode := s.toNode.onClient c (RadioClient.withBase after)
          receiving := none } message id now
      rw [lost]
      exact ⟨prepared, kept.table, kept.phase.scan points at_ log settled (fun _ => rfl)
        fun connected => absurd (now.symm.trans connected) Bool.noConfusion⟩
  · exact ⟨prepared, kept.table,
      kept.phase.scan points at_ log (settledLog_stops ran stops) (fun _ => rfl) (still quiet)⟩

theorem Kept.inbound (kept : Kept files entries path s) {a : InboundNode.Action}
    {next : InboundNode} (moved : InboundNode.step files s.toInboundNode a = some next) :
    Kept files entries path
      { toInboundNode := next, arrived := s.arrived ++ arrives s.toInboundNode a } := by
  cases a with
  | node a =>
      simp only [InboundNode.step] at moved
      split at moved
      · rename_i configuring
        split at moved
        · rename_i node stepped
          cases moved
          simpa only [arrives, List.append_nil] using kept.nodeStep configuring stepped
        · cases moved
      · cases moved
  | late => simpa only [arrives, List.append_nil] using kept.late moved
  | datagram data => exact kept.datagram moved
  | receive => simpa only [arrives, List.append_nil] using kept.receive moved

theorem Kept.step (kept : Kept files entries path s) {a : Action}
    (taken : s.step files a = some t) : Kept files entries path t := by
  cases a with
  | inbound a =>
      simp only [PublishingNode.step] at taken
      split at taken
      · rename_i next moved
        cases taken
        exact kept.inbound moved
      · cases taken
  | reconnect =>
      simp only [PublishingNode.step] at taken
      split at taken
      · rename_i allowed
        split at taken
        · rename_i node moved
          cases taken
          obtain ⟨idle, -, rfl⟩ := reconnect_cases moved
          exact kept.call allowed.1 idle.1 calm_reconnectSrv
        · cases taken
      · cases taken
  | shutdown =>
      simp only [PublishingNode.step] at taken
      split at taken
      · rename_i late
        split at taken
        · rename_i node moved
          cases taken
          obtain ⟨idle, rfl⟩ := shutdown_cases moved
          exact kept.call late idle.1 calm_handleOnShutdown
        · cases taken
      · cases taken

theorem kept_of_reachable (valid : files path = .accepted entries) {config : Config}
    (reached : (system files config path).Reachable s) : Kept files entries path s := by
  refine reached.invariant ?_ fun _ _ _ kept _ taken => kept.step taken
  rintro _ rfl
  exact kept_start valid config

end Kept

end PublishingNode

end V2xRosDriver.Driver
