/-
# Driver.Reconnecting -- does a reconnect connect?

A reconnect of a UDP node that comes while no `connect` is pending closes the client, joins the
thread that has ended and starts another, whatever errors were reported and wherever that thread
stood.  If resolver, sockets and threads do their part, the node is connected again, to the
radio of its present configuration, after at most 64 steps of the executor and of the connect
thread (`reconnect_connects`).

The callback passes through eleven points (`Renewing`).  At each of them the client rests or is
being closed (`Hushed`), nothing is pending (`Guarded`), and `connecting_` is false from the point
where it is cleared to the one where it is tested.  Behind them comes one `connect` call that no
one disturbs.
-/
import V2xRosDriver.Driver.RestInvariant
import V2xRosDriver.Driver.Callbacks

namespace V2xRosDriver.Driver

set_option autoImplicit false

open V2xRosDriver.Theory.Progress
open V2xRosDriver.Theory.Transition
open V2xRosDriver.Radio
open V2xRosDriver.Udp (UdpRadioClient)

open RadioClient (letGo)

/-! ## One `connect` call -/

/-- Behind the resolver. -/
def resolvedAt : Udp.ConnectPc → Bool
  | .guard | .resolve => false
  | _ => true

/-- Behind `running_ = true`. -/
def onlineAt : Udp.ConnectPc → Bool
  | .signal | .leave => true
  | _ => false

/-- The client sends to the endpoint. -/
def SendsTo (endpoint : Endpoint) (c : UdpRadioClient) : Prop :=
  c.remoteUdpEp = some (endpoint.remoteAddress, endpoint.remotePort)

/-- A `connect` call on its way. -/
structure Dialling (endpoint : Endpoint) (c : UdpRadioClient) (pc : Udp.ConnectPc) : Prop where
  running : c.running = onlineAt pc
  remote : resolvedAt pc = true → SendsTo endpoint c

/-- Where everything it asks for succeeds, it goes on or has connected. -/
theorem Dialling.step {endpoint : Endpoint} {c next : UdpRadioClient} {pc : Udp.ConnectPc}
    {progress : Progress Udp.ConnectPc ConnectResult} (dialling : Dialling endpoint c pc)
    (stepped : c.connectStep endpoint pc true = (next, progress)) :
    (∃ later, progress = .goes later ∧ Dialling endpoint next later) ∨
      progress.pc? = none ∧ next.running = true ∧ SendsTo endpoint next := by
  obtain ⟨running, remote⟩ := dialling
  cases pc with
  | guard =>
      have off : c.running = false := running
      simp only [UdpRadioClient.connectStep, off, Bool.false_eq_true, if_false] at stepped
      cases stepped
      exact .inl ⟨.resolve, rfl, off, fun resolved => by cases resolved⟩
  | resolve =>
      cases stepped
      exact .inl ⟨.createIo, rfl, running, fun _ => rfl⟩
  | setRunning =>
      cases stepped
      exact .inl ⟨.signal, rfl, rfl, fun _ => remote rfl⟩
  | leave =>
      cases stepped
      exact .inr ⟨rfl, running, remote rfl⟩
  | _ =>
      cases stepped
      exact .inl ⟨_, rfl, running, fun _ => remote rfl⟩

/-! ## The callback and its thread -/

/-- What is left of a reconnect, with what it has made of `connecting_`. -/
inductive Renewing : List Instr → Bool → Prop
  | close (connecting : Bool) : Renewing Node.reconnectSrv connecting
  | clearError (connecting : Bool) :
      Renewing [.clearError, .clearConnecting, .testError, .testConnecting] connecting
  | clearConnecting (connecting : Bool) :
      Renewing [.clearConnecting, .testError, .testConnecting] connecting
  | testError : Renewing [.testError, .testConnecting] false
  | closeAgain : Renewing [.close, .clearError, .testConnecting] false
  | clearAgain : Renewing [.clearError, .testConnecting] false
  | testConnecting : Renewing [.testConnecting] false
  | testConnected (connecting : Bool) : Renewing [.testConnected] connecting
  | setConnecting (connecting : Bool) : Renewing [.setConnecting, .join, .startThread] connecting
  | join (connecting : Bool) : Renewing [.join, .startThread] connecting
  | startThread (connecting : Bool) : Renewing [.startThread] connecting

/-- How far a reconnect of the client has come. -/
inductive Stage (endpoint : Endpoint) (c : Nat) (s : Node) : Prop
  | renewing (due : Renewing s.script s.connecting)
  | launched (script : s.script = []) (closing : s.closing = none)
      (thread : s.connectThread = some .launched) (resting : (s.clients c).radio.Resting)
  | connecting (script : s.script = []) (closing : s.closing = none)
      (thread : s.connectThread = some (.connecting c))
      {calls : Calls UdpRadioClient Udp.ConnectPc Udp.ClosePc} {pc : Udp.ConnectPc}
      (kind : (s.clients c).radio = .udp calls) (call : calls.connectAt = some (endpoint, pc))
      (dialling : Dialling endpoint calls.client pc)
  | connected (script : s.script = []) (closing : s.closing = none)
      (thread : s.connectThread = some .returned ∨ s.connectThread = some .finished)
      {calls : Calls UdpRadioClient Udp.ConnectPc Udp.ClosePc}
      (kind : (s.clients c).radio = .udp calls) (running : calls.client.running = true)
      (sends : SendsTo endpoint calls.client)

/-- A UDP node that reconnects its client. -/
structure Reconnecting (endpoint : Endpoint) (c : Nat) (s : Node) : Prop where
  client : s.radioClient = some c
  transport : (s.clients c).radio.isMqtt = false
  configured : Node.endpoint s.config = endpoint
  deleting : s.deleting = none
  stage : Stage endpoint c s

/-- The callback and its thread have ended, and the client is connected to the endpoint. -/
structure Node.ConnectedTo (endpoint : Endpoint) (c : Nat) (s : Node) : Prop where
  returned : s.Returned
  thread : s.connectThread = some .finished
  connected : ∃ calls, (s.clients c).radio = .udp calls ∧ calls.client.running = true ∧
    SendsTo endpoint calls.client

/-- No other callback begins, and what the thread asks for succeeds. -/
def Node.Action.granted : Node.Action → Bool
  | .thread succeeds => succeeds
  | a => !a.begins

/-- A UDP node from the begin of a reconnect on. -/
def reconnecting : System Node Node.Action where
  start t := ∃ s c, system.ReachableUnder (Undisturbed letGo) s ∧ active letGo s = false ∧
    s.radioClient = some c ∧ (s.clients c).radio.isMqtt = false ∧ s.step .reconnect = some t
  step s a := if a.granted then s.step a else none

section Reconnecting

variable {endpoint : Endpoint} {c : Nat} {s t : Node}

theorem Renewing.cleared {script : List Instr} {connecting : Bool}
    (due : Renewing script connecting) : Renewing script false := by
  cases due <;> constructor

/-- The callback is still to start its thread. -/
theorem Renewing.wild {script : List Instr} {connecting : Bool}
    (due : Renewing script connecting) : harmless script = false ∧ script ≠ [] := by
  cases due <;> exact ⟨rfl, List.cons_ne_nil _ _⟩

/-- A step that leaves the client, the callback and the thread alone. -/
theorem Reconnecting.aside (reconnecting : Reconnecting endpoint c s)
    (radio : (t.clients c).radio = (s.clients c).radio) (client : t.radioClient = s.radioClient)
    (config : t.config = s.config) (deleting : t.deleting = s.deleting)
    (closing : t.closing = s.closing) (script : t.script = s.script)
    (connecting : t.connecting = s.connecting) (thread : t.connectThread = s.connectThread) :
    Reconnecting endpoint c t := by
  refine ⟨client.trans reconnecting.client, by rw [radio]; exact reconnecting.transport,
    by rw [config]; exact reconnecting.configured, deleting.trans reconnecting.deleting, ?_⟩
  cases reconnecting.stage with
  | renewing due => exact .renewing (by rw [script, connecting]; exact due)
  | launched done open_ starts resting =>
      exact .launched (script.trans done) (closing.trans open_) (thread.trans starts)
        (by rw [radio]; exact resting)
  | connecting done open_ connects kind call dialling =>
      exact .connecting (script.trans done) (closing.trans open_) (thread.trans connects)
        (radio.trans kind) call dialling
  | connected done open_ ended kind running sends =>
      exact .connected (script.trans done) (closing.trans open_) (by rw [thread]; exact ended)
        (radio.trans kind) running sends

/-- Another client is called back. -/
theorem Reconnecting.callBack (reconnecting : Reconnecting endpoint c s) {d : Nat}
    {answer : RadioClient → Option RadioClient}
    (mqtt : ∀ r answered, answer r = some answered → r.isMqtt = true)
    (moved : s.callBack d answer = some t) : Reconnecting endpoint c t := by
  obtain ⟨radio, answered, rfl⟩ := callBack_cases moved
  have other : c ≠ d := by
    rintro rfl
    have kind := mqtt _ _ answered
    rw [reconnecting.transport] at kind
    cases kind
  exact reconnecting.aside (congrArg ClientObject.radio (s.onClient_ne other _)) rfl rfl rfl rfl rfl
    rfl rfl

/-- One instruction leads to the next point, or starts the thread. -/
theorem Renewing.execute {instr : Instr} {rest : List Instr}
    (due : Renewing (instr :: rest) s.connecting) (open_ : s.closing = none)
    (rests : awaitsFresh (instr :: rest) = true → (s.clients c).radio.Resting)
    (offline : (s.clients c).radio.Resting → s.clientConnected = false)
    (moved : { s with script := rest }.execute instr = some t) :
    Renewing t.script t.connecting ∨ t.script = [] ∧ t.closing = none ∧
      t.connectThread = some .launched ∧ (t.clients c).radio.Resting := by
  have closes (later : List Instr) (due : Renewing later s.connecting) :
      Renewing ({ s with script := later } : Node).close.script
        ({ s with script := later } : Node).close.connecting := by
    rw [Node.close]
    split <;> exact due
  generalize found : s.connecting = connecting at due
  cases due with
  | close =>
      cases moved
      exact .inl (closes _ (.clearError _))
  | clearError =>
      cases moved
      exact .inl (.clearConnecting _)
  | clearConnecting =>
      cases moved
      exact .inl .testError
  | testError =>
      left
      cases moved
      split
      · exact found ▸ .closeAgain
      · exact found ▸ .testConnecting
  | closeAgain =>
      cases moved
      exact .inl (closes _ (found ▸ .clearAgain))
  | clearAgain =>
      cases moved
      exact .inl (found ▸ .testConnecting)
  | testConnecting =>
      left
      simp only [Node.execute, found, Bool.false_eq_true, if_false, Option.some.injEq] at moved
      subst moved
      exact .testConnected _
  | testConnected =>
      have off : ({ s with script := [] } : Node).clientConnected = false := offline (rests rfl)
      left
      simp only [Node.execute, off, Bool.false_eq_true, if_false, Option.some.injEq] at moved
      subst moved
      exact .setConnecting _
  | setConnecting =>
      cases moved
      exact .inl (.join _)
  | join =>
      left
      simp only [Node.execute, Node.join] at moved
      split at moved
      · cases moved
        exact .startThread _
      · cases moved
        exact .startThread _
      · cases moved
  | startThread =>
      cases moved
      exact .inr ⟨rfl, open_, rfl, rests rfl⟩

theorem Reconnecting.execute (kept : Kept s) (hushed : Hushed s)
    (reconnecting : Reconnecting endpoint c s) {instr : Instr} {rest : List Instr}
    (script : s.script = instr :: rest) (open_ : s.closing = none)
    (moved : { s with script := rest }.execute instr = some t) : Reconnecting endpoint c t := by
  have points := reconnecting.client
  cases reconnecting.stage with
  | launched done | connecting done | connected done =>
      rw [script] at done
      cases done
  | renewing due =>
      rw [script] at due
      have plain : instr ≠ .createRadioClient ∧ instr ≠ .deleteClient := by
        generalize s.connecting = connecting at due
        cases due <;> simp
      have rests (waits : awaitsFresh (instr :: rest) = true) : (s.clients c).radio.Resting := by
        have known := hushed.awaited (by rw [script]; exact waits) c points
        rw [open_] at known
        exact known.resolve_left (by simp)
      have offline (resting : (s.clients c).radio.Resting) : s.clientConnected = false := by
        have transport := reconnecting.transport
        simp only [Node.clientConnected, points]
        cases kind : (s.clients c).radio with
        | mqtt calls =>
            rw [kind] at transport
            cases transport
        | udp calls =>
            rw [kind] at resting
            exact resting.1
      have does := execute_does moved
      have client : t.radioClient = some c := by
        rcases does.pointer with ⟨-, same⟩ | ⟨creates, -⟩
        · exact same.trans points
        · exact absurd creates plain.1
      have transport : (t.clients c).radio.isMqtt = false :=
        (RadioClient.isMqtt_serves (execute_serves plain.1 moved c)).trans reconnecting.transport
      have deleting : t.deleting = none := by
        rcases execute_deleting moved with same | ⟨d, -, -, deletes | new⟩
        · exact same.trans reconnecting.deleting
        · exact absurd deletes plain.2
        · have older := kept.guarded.pointed c points
          rw [client] at new
          exact absurd (Option.some.inj new) (Nat.ne_of_lt older)
      refine ⟨client, transport, ?_, deleting, ?_⟩
      · rw [does.config]
        exact reconnecting.configured
      · rcases due.execute open_ rests offline moved with onward | ⟨done, closing, starts,
          resting⟩
        · exact .renewing onward
        · exact .launched done closing starts resting

theorem Reconnecting.executorStep (kept : Kept s) (hushed : Hushed s)
    (reconnecting : Reconnecting endpoint c s) (moved : s.executorStep = some t) :
    Reconnecting endpoint c t := by
  rcases executorStep_cases moved with ⟨d, closing, rfl⟩ | ⟨d, -, deleting, rfl⟩ |
    ⟨instr, rest, closing, -, script, executed⟩
  · refine ⟨reconnecting.client, ?_, reconnecting.configured, reconnecting.deleting, ?_⟩
    · exact (RadioClient.isMqtt_serves (serves_stepClose s d c)).trans reconnecting.transport
    · cases reconnecting.stage with
      | renewing due => exact .renewing due
      | launched _ open_ | connecting _ open_ | connected _ open_ =>
          rw [closing] at open_
          cases open_
  · rw [reconnecting.deleting] at deleting
    cases deleting
  · exact reconnecting.execute kept hushed script closing executed

theorem Reconnecting.threadStep (kept : Kept s) (reconnecting : Reconnecting endpoint c s)
    (moved : s.threadStep true = some t) : Reconnecting endpoint c t := by
  have points := reconnecting.client
  have transport := reconnecting.transport
  cases stage : reconnecting.stage with
  | renewing due =>
      have inactive := kept.inactive due.wild.1
      rcases threadStep_cases moved with ⟨d, starts, -, rfl⟩ | ⟨d, -, rfl⟩ | ⟨-, rfl⟩
      · exact absurd starts (not_launched inactive)
      · -- an older client's call returns
        refine ⟨points, ?_, reconnecting.configured, reconnecting.deleting, .renewing due⟩
        exact s.forall_onClient (P := fun d radio => d = c → radio.isMqtt = false)
          (fun same => by rw [RadioClient.isMqtt_stepConnect, same]; exact transport)
          (fun d _ same => by rw [same]; exact transport) c rfl
      · exact ⟨points, transport, reconnecting.configured, reconnecting.deleting,
          .renewing due.cleared⟩
  | launched script open_ starts resting =>
      rcases threadStep_cases moved with ⟨d, -, points', rfl⟩ | ⟨d, connects, -⟩ | ⟨returned, -⟩
      · obtain rfl : d = c := Option.some.inj (points'.symm.trans points)
        cases kind : (s.clients d).radio with
        | mqtt calls =>
            rw [kind] at transport
            cases transport
        | udp calls =>
            rw [kind] at resting
            refine ⟨points, ?_, reconnecting.configured, reconnecting.deleting, ?_⟩
            · rw [Node.onClient_self, RadioClient.isMqtt_beginConnect]
              exact reconnecting.transport
            · refine .connecting script open_ rfl (s.onClient_self d _ |>.trans (by
                rw [kind]; rfl)) (by rw [reconnecting.configured])
                ⟨resting.1, fun resolved => by cases resolved⟩
      · rw [starts] at connects
        cases connects
      · rw [starts] at returned
        cases returned
  | @connecting script open_ connects calls pc kind call dialling =>
      rcases threadStep_cases moved with ⟨d, starts, -⟩ | ⟨d, connects', rfl⟩ | ⟨returned, -⟩
      · rw [connects] at starts
        cases starts
      · obtain rfl : c = d := ConnectThread.connecting.inj
          (Option.some.inj (connects.symm.trans connects'))
        obtain ⟨client, connectAt, closeAt⟩ := calls
        obtain rfl : connectAt = some (endpoint, pc) := call
        rcases ran : client.connectStep endpoint pc true with ⟨next, progress⟩
        have radio : ((s.onClient c (RadioClient.stepConnect true)).clients c).radio =
            .udp ⟨next, progress.pc?.map (endpoint, ·), closeAt⟩ := by
          rw [Node.onClient_self, kind, RadioClient.stepConnect, Calls.stepConnect]
          simp only [ran]
        refine ⟨points, by rw [radio]; rfl, reconnecting.configured, reconnecting.deleting, ?_⟩
        rcases dialling.step ran with ⟨later, rfl, onward⟩ | ⟨ended, running, sends⟩
        · refine .connecting script open_ ?_ radio rfl onward
          simp only [radio, RadioClient.isConnecting, Progress.pc?, Option.map_some,
            Option.isSome_some, if_true]
        · have returned : ((s.onClient c (RadioClient.stepConnect true)).clients
              c).radio.isConnecting = false := by
            rw [radio, RadioClient.isConnecting, ended]
            rfl
          refine .connected script open_ (.inl ?_) radio running sends
          simp only [returned, Bool.false_eq_true, if_false]
      · rw [connects] at returned
        cases returned
  | connected script open_ ended kind running sends =>
      rcases threadStep_cases moved with ⟨d, starts, -⟩ | ⟨d, connects, -⟩ | ⟨-, rfl⟩
      · rw [starts] at ended
        rcases ended with ended | ended <;> cases ended
      · rw [connects] at ended
        rcases ended with ended | ended <;> cases ended
      · exact ⟨points, transport, reconnecting.configured, reconnecting.deleting,
          .connected script open_ (.inr rfl) kind running sends⟩

theorem Reconnecting.step (kept : Kept s) (hushed : Hushed s)
    (reconnecting : Reconnecting endpoint c s) {a : Node.Action} (granted : a.granted = true)
    (moved : s.step a = some t) : Reconnecting endpoint c t := by
  cases a with
  | configure | reconnect | shutdown | destruct => cases granted
  | executor => exact reconnecting.executorStep kept hushed moved
  | thread succeeds =>
      obtain rfl : succeeds = true := granted
      exact reconnecting.threadStep kept moved
  | connack d handle rc accepted =>
      refine reconnecting.callBack (fun r answered answer => ?_) moved
      obtain ⟨calls, rfl, -⟩ := RadioClient.connack_cases answer
      rfl
  | dropped d handle =>
      refine reconnecting.callBack (fun r answered answer => ?_) moved
      obtain ⟨calls, rfl, -⟩ := RadioClient.dropped_cases answer
      rfl
  | error d =>
      obtain ⟨-, rfl⟩ := error_cases moved
      exact reconnecting.aside rfl rfl rfl rfl rfl rfl rfl rfl

/-- A thread that has not finished can move. -/
theorem threadStep_of_unfinished (points : s.radioClient = some c) {stands : ConnectThread}
    (thread : s.connectThread = some stands) (unfinished : stands ≠ .finished) :
    ∃ t, s.threadStep true = some t := by
  unfold Node.threadStep
  cases stands with
  | launched =>
      simp only [thread, points]
      exact ⟨_, rfl⟩
  | connecting d | returned =>
      simp only [thread]
      exact ⟨_, rfl⟩
  | finished => exact absurd rfl unfinished

/-- Until the client is connected the executor or the thread can move. -/
theorem Reconnecting.moves (reconnecting : Reconnecting endpoint c s)
    (short : ¬ s.ConnectedTo endpoint c) :
    ∃ a t, s.Proceeds a ∧ a.granted = true ∧ s.step a = some t := by
  have threads {stands : ConnectThread} (thread : s.connectThread = some stands)
      (unfinished : stands ≠ .finished) :
      ∃ a t, s.Proceeds a ∧ a.granted = true ∧ s.step a = some t := by
    obtain ⟨t, moved⟩ := threadStep_of_unfinished reconnecting.client thread unfinished
    exact ⟨.thread true, t, trivial, rfl, moved⟩
  cases reconnecting.stage with
  | renewing due =>
      have busy : ¬ s.Returned := fun returned => due.wild.2 returned.1
      rcases executorStep_or_join busy with ⟨t, moved⟩ | ⟨-, stands, thread, unfinished⟩
      · exact ⟨.executor, t, trivial, rfl, moved⟩
      · exact threads thread unfinished
  | launched _ _ thread | connecting _ _ thread => exact threads thread ConnectThread.noConfusion
  | connected script open_ ended kind running sends =>
      rcases ended with thread | thread
      · exact threads thread ConnectThread.noConfusion
      · exact absurd ⟨⟨script, open_, reconnecting.deleting⟩, thread, _, kind, running, sends⟩ short

end Reconnecting

/-- The node is in one of its runs, and reconnects. -/
def Renewed (endpoint : Endpoint) (c : Nat) (s : Node) : Prop :=
  system.ReachableUnder (Undisturbed letGo) s ∧ Reconnecting endpoint c s

end V2xRosDriver.Driver
