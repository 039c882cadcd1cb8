/-
# Udp.Traffic -- datagrams in, messages out

Everything a UDP client receives and sends passes through its `io_service`: the listener posts
the buffers it has read, senders post messages through the strand, and the I/O thread runs
what was posted.  The strand keeps the messages in order and the `io_service` keeps the
buffers in order, but neither is ordered against the other.  A new `io_service` begins with
nothing posted; its number is the epoch of what passes through it.

The I/O thread is inside `process` for a while, and the owner may tell the client of its wave file
meanwhile.

Every buffer read is processed at most once, in the order it was read and by the connection
it was read in, and the client raises what a receiver raises that hears these datagrams
(`inbound_in_order`).  Every message accepted is handed to the socket at most once, in the
order of its acceptance and by the connection that accepted it (`outbound_in_order`).
-/
import V2xRosDriver.Radio.Scanning
import V2xRosDriver.Theory.Channel
import V2xRosDriver.Udp.ClientRun

namespace V2xRosDriver.Udp

set_option autoImplicit false

open V2xRosDriver.Radio
open V2xRosDriver.Theory.Channel
open V2xRosDriver.Theory.Transition

/-! ## Runs with their traffic -/

/-- A received buffer among what was posted. -/
def Posted.buffer? : Posted → Option (List UInt8)
  | .received buf => some buf
  | .outgoing _ => none

/-- A message for the socket among what was posted. -/
def Posted.message? : Posted → Option (List UInt8)
  | .received _ => none
  | .outgoing message => some message

/-- The buffer `handle_recv_udp` posts at a point. -/
def RecvPc.posts : RecvPc → List (List UInt8)
  | .post buf => [buf]
  | _ => []

/-- A client with what went through its `io_service` in both directions, the scan its I/O thread is
in, and what it has heard. -/
structure Traffic extends ClientRun where
  inbound : Ledger (List UInt8) := {}
  outbound : Ledger (List UInt8) := {}
  scanning : Option Scan := none
  heard : List Hearing := []

namespace Traffic

/-- The buffer a step of `handle_recv_udp` posts. -/
def readBy (s : ClientRun) : ClientRun.Action → List (List UInt8)
  | .handle _ =>
      match s.loop with
      | .handling pc => pc.posts
      | _ => []
  | _ => []

/-- The message a call of `sendV2xMessage` posts. -/
def acceptedBy (s : ClientRun) : ClientRun.Action → List (List UInt8)
  | .send message posted => (s.client.sendV2xMessage message posted).1.toList
  | _ => []

/-- A step of the client, the owner's `set_wave_file_path`, and the I/O thread at the first buffer
that was posted, in `process`, or at the first message that was posted. -/
inductive Action where
  | client (a : ClientRun.Action)
  | tell
  | runReceived
  | scan
  | runOutgoing (ec : ErrorCode)
  deriving DecidableEq

/-- The I/O thread makes the step. -/
def onIoThread : ClientRun.Action → Bool
  | .completion _ | .handle _ | .runPosted _ | .runReturns | .runFails _ => true
  | _ => false

/-- The I/O thread can run what was posted. -/
def Serves (s : Traffic) : Prop :=
  s.aborted = false ∧ s.loop = .waiting ∧ s.stopped = false ∧ s.scanning = none

instance (s : Traffic) : Decidable (Serves s) := inferInstanceAs (Decidable (_ ∧ _ ∧ _ ∧ _))

/-- What is left of the scan; without anything left its datagram has been heard. -/
def left (s : Traffic) (scan : Option Scan) (hearing : Hearing) : Traffic :=
  { s with
    scanning := scan
    heard := if scan.isSome then s.heard else s.heard ++ [hearing] }

def step (files : WaveFiles) (path : String) (s : Traffic) : Action → Option Traffic
  | .client (.runPosted _) => none
  | .client a =>
      if onIoThread a ∧ s.scanning.isSome then none
      else
        match ClientRun.step files s.toClientRun a with
        | none => none
        | some next => some
            { s with
              toClientRun := next
              inbound := s.inbound.logPut s.client.generations (readBy s.toClientRun a)
              outbound := s.outbound.logPut s.client.generations (acceptedBy s.toClientRun a) }
  | .tell =>
      if s.aborted then none
      else some
        { s with
          client :=
            { s.client with
              toBaseRadioClient := (exec (setWaveFilePath path) s.client.toBaseRadioClient).2 }
          scanning := s.scanning.map (Scan.tell (.told ∈ s.heard))
          heard := s.heard ++ [.told] }
  | .runReceived =>
      if s.Serves then
        match pick? Posted.buffer? s.posted with
        | none => none
        | some (buf, rest) => some
            { s.left (Scan.begin? s.client.generations buf)
                (.datagram s.client.generations buf 0) with
              posted := rest
              inbound := s.inbound.logTaken s.client.generations buf }
      else none
  | .scan =>
      match s.scanning with
      | none => none
      | some scan =>
          if s.aborted then none
          else
            let stepped := scan.step files s.client.toBaseRadioClient
            some
              { s.left (Scan.onward stepped.1) scan.hearing with
                client := { s.client with toBaseRadioClient := stepped.2 }
                aborted := stepped.1.toBool.not }
  | .runOutgoing ec =>
      if s.Serves then
        match pick? Posted.message? s.posted with
        | none => none
        | some (message, rest) => some
            { s with
              toClientRun :=
                { s.toClientRun with posted := rest }.runPosted files ec (.outgoing message)
              outbound := s.outbound.logTaken s.client.generations message }
      else none

/-- A client from its construction on, told of one wave file at any time. -/
def system (files : WaveFiles) (path : String) : System Traffic Action where
  start s := s = {}
  step := step files path

/-! ## What a step posts -/

section Posted

variable {files : WaveFiles} {s t : ClientRun}

/-- What was posted in this epoch is still there, with what the step posts behind it. -/
structure Posts (s t : ClientRun) (buffers messages : List (List UInt8)) : Prop where
  quiet : Quiet s.client.toBaseRadioClient t.client.toBaseRadioClient
  epoch : t.client.generations = s.client.generations
  posted : t.posted = s.posted ++ buffers.map .received ++ messages.map .outgoing

/-- The step begins a new epoch. -/
structure Renews (s t : ClientRun) : Prop where
  quiet : Quiet s.client.toBaseRadioClient t.client.toBaseRadioClient
  epoch : t.client.generations = s.client.generations + 1
  posted : t.posted = []

theorem Posts.nothing
    (quiet : Quiet s.client.toBaseRadioClient t.client.toBaseRadioClient)
    (epoch : t.client.generations = s.client.generations)
    (posted : t.posted = s.posted) : Posts s t [] [] :=
  ⟨quiet, epoch, by rw [posted, List.map_nil, List.map_nil, List.append_nil, List.append_nil]⟩

theorem connectStep_posts (endpoint : Endpoint) (pc : ConnectPc) (succeeds : Bool) :
    Renews s (s.connectStep endpoint pc succeeds) ∨
      Posts s (s.connectStep endpoint pc succeeds) [] [] := by
  cases pc with
  | createIo => exact Or.inl ⟨⟨rfl, rfl, rfl, rfl⟩, rfl, rfl⟩
  | guard =>
      refine Or.inr (.nothing ?_ ?_ rfl) <;>
        simp only [ClientRun.connectStep, UdpRadioClient.connectStep] <;> split <;>
        first | rfl | exact ⟨rfl, rfl, rfl, rfl⟩
  | resolve | createListener | createSocket | startThread =>
      cases succeeds with
      | false => exact Or.inr (.nothing ⟨rfl, rfl, rfl, rfl⟩ rfl rfl)
      | true => exact Or.inr (.nothing ⟨rfl, rfl, rfl, rfl⟩ rfl rfl)
  | _ => exact Or.inr (.nothing ⟨rfl, rfl, rfl, rfl⟩ rfl rfl)

theorem closeStep_posts (pc : ClosePc) (onward : ClosePc → Call) (behind : Call) :
    Posts s (s.closeStep pc onward behind) [] [] := by
  cases pc with
  | check =>
      refine .nothing ?_ ?_ rfl <;>
        simp only [ClientRun.closeStep, UdpRadioClient.closeStep] <;> split <;>
        first | rfl | exact ⟨rfl, rfl, rfl, rfl⟩
  | _ => exact .nothing ⟨rfl, rfl, rfl, rfl⟩ rfl rfl

theorem release_posts (member : Member) : Posts s (s.release member) [] [] := by
  cases member <;> exact .nothing ⟨rfl, rfl, rfl, rfl⟩ rfl rfl

theorem handleRecvUdp_posts {l after : UdpListener} {answer : SocketAnswer} {pc : RecvPc}
    {buffers : List (List UInt8)} {progress : Progress RecvPc Unit}
    (handled : l.handleRecvUdp answer pc = some (after, buffers, progress)) :
    buffers = pc.posts := by
  cases pc with
  | branch ec | available | receive =>
      simp only [UdpListener.handleRecvUdp] at handled
      split at handled <;> cases handled <;> rfl
  | post buf | rearm =>
      cases handled
      rfl

theorem handle_posts {pc : RecvPc} (here : s.loop = .handling pc) (answer : SocketAnswer) :
    Posts s (s.handle pc answer) (readBy s (.handle answer)) [] := by
  have reads : readBy s (.handle answer) = pc.posts := by simp only [readBy, here]
  rw [reads]
  unfold ClientRun.handle
  cases handled : s.listener.handleRecvUdp answer pc with
  | none =>
      -- only `available` throws, and it posts nothing
      cases pc with
      | post buf => cases handled
      | branch | available | receive | rearm => exact .nothing ⟨rfl, rfl, rfl, rfl⟩ rfl rfl
  | some result =>
      obtain ⟨listener, buffers, progress⟩ := result
      rw [← handleRecvUdp_posts handled]
      exact ⟨⟨rfl, rfl, rfl, rfl⟩, rfl, by simp⟩

/-- A step of the client posts what it read or accepted, or begins a new epoch. -/
theorem posts_of_step {a : ClientRun.Action} (unposted : ∀ ec, a ≠ .runPosted ec)
    (taken : ClientRun.step files s a = some t) :
    (Renews s t ∧ readBy s a = [] ∧ acceptedBy s a = []) ∨
      Posts s t (readBy s a) (acceptedBy s a) := by
  have does := ClientRun.step_does taken
  cases does with
  | connecting succeeds here =>
      rcases connectStep_posts _ _ succeeds with renews | posts
      · exact Or.inl ⟨renews, rfl, rfl⟩
      · exact Or.inr posts
  | closing succeeds here joins | destroying succeeds here joins =>
      exact Or.inr (closeStep_posts _ _ _)
  | releasing succeeds here => exact Or.inr (release_posts _)
  | connect | close | destroy | throws | completion | runReturns | runFails =>
      exact Or.inr (.nothing ⟨rfl, rfl, rfl, rfl⟩ rfl rfl)
  | handle answer here => exact Or.inr (handle_posts here answer)
  | runPosted ec => exact absurd rfl (unposted ec)
  | send message accepted handlers =>
      simp only [ClientRun.step] at taken
      split at taken
      · cases taken
      · have posted := congrArg ClientRun.posted (Option.some.inj taken)
        refine Or.inr ⟨⟨rfl, rfl, rfl, rfl⟩, rfl, ?_⟩
        rw [← posted, acceptedBy, Option.toList_map]
        show _ = s.posted ++ [] ++ _
        rw [List.append_nil]

end Posted

/-! ## The invariant -/

/-- The datagram of the scan under way. -/
def inHand (s : Traffic) : List (Nat × List UInt8) :=
  s.scanning.toList.map fun scan => (scan.source, scan.data)

/-- Both directions lose nothing within an epoch, and the client stands for a receiver that was
told and heard what the client was told and processed. -/
structure Kept (files : WaveFiles) (path : String) (s : Traffic) : Prop where
  inbound : s.inbound.Exact s.client.generations (s.posted.filterMap Posted.buffer?)
  outbound : s.outbound.Exact s.client.generations (s.posted.filterMap Posted.message?)
  listens : Listens files path s.heard (fun scan => s.scanning = some scan)
    s.client.toBaseRadioClient
  processed : s.heard.filterMap Hearing.datagram? ++ s.inHand = s.inbound.taken

section Kept

variable {files : WaveFiles} {path : String} {s t : Traffic}

theorem filterMap_buffer? (posted : List Posted) (buffers messages : List (List UInt8)) :
    (posted ++ buffers.map Posted.received ++ messages.map Posted.outgoing).filterMap
        Posted.buffer? =
      posted.filterMap Posted.buffer? ++ buffers := by
  simp [List.filterMap_append, List.filterMap_map, Function.comp_def, Posted.buffer?]

theorem filterMap_message? (posted : List Posted) (buffers messages : List (List UInt8)) :
    (posted ++ buffers.map Posted.received ++ messages.map Posted.outgoing).filterMap
        Posted.message? =
      posted.filterMap Posted.message? ++ messages := by
  simp [List.filterMap_append, List.filterMap_map, Function.comp_def, Posted.message?]

theorem kept_start : Kept files path {} where
  inbound := Ledger.exact_start 0
  outbound := Ledger.exact_start 0
  listens := (listens_start files path).fewer fun _ is => by cases is
  processed := rfl

theorem Kept.client (kept : Kept files path s) {a : ClientRun.Action}
    (unposted : ∀ ec, a ≠ .runPosted ec) {next : ClientRun}
    (taken : ClientRun.step files s.toClientRun a = some next) :
    Kept files path
      { s with
        toClientRun := next
        inbound := s.inbound.logPut s.client.generations (readBy s.toClientRun a)
        outbound := s.outbound.logPut s.client.generations (acceptedBy s.toClientRun a) } := by
  rcases posts_of_step unposted taken with ⟨renews, unread, unaccepted⟩ | posts
  · have newer : s.client.generations < next.client.generations := by
      rw [renews.epoch]
      exact Nat.lt_succ_self _
    have inbound := kept.inbound.logPut (readBy s.toClientRun a)
    have outbound := kept.outbound.logPut (acceptedBy s.toClientRun a)
    refine ⟨?_, ?_, kept.listens.quiet renews.quiet, kept.processed⟩
    · simp only [renews.posted]
      exact inbound.renew newer
    · simp only [renews.posted]
      exact outbound.renew newer
  · refine ⟨?_, ?_, kept.listens.quiet posts.quiet, kept.processed⟩
    · simp only [posts.posted, posts.epoch, filterMap_buffer?]
      exact kept.inbound.logPut _
    · simp only [posts.posted, posts.epoch, filterMap_message?]
      exact kept.outbound.logPut _

/-- The owner tells the client of its file, in the middle of a scan or not. -/
theorem Kept.tell (kept : Kept files path s) :
    Kept files path
      { s with
        client :=
          { s.client with
            toBaseRadioClient := (exec (setWaveFilePath path) s.client.toBaseRadioClient).2 }
        scanning := s.scanning.map (Scan.tell (.told ∈ s.heard))
        heard := s.heard ++ [.told] } where
  inbound := kept.inbound
  outbound := kept.outbound
  listens := by
    refine kept.listens.tell fun scan is => ?_
    obtain ⟨before, was, rfl⟩ := Option.map_eq_some_iff.mp is
    exact ⟨before, was, rfl⟩
  processed := by
    rw [← kept.processed, List.filterMap_append]
    simp only [inHand, List.filterMap_cons, Hearing.datagram?, List.filterMap_nil,
      List.append_nil, List.append_cancel_left_eq]
    cases s.scanning with
    | none => rfl
    | some scan =>
        simp only [Option.map_some, Option.toList_some, List.map_singleton, Scan.tell]
        split <;> rfl

/-- What was heard and what is in hand, behind a step of the receive path. -/
theorem processed_left (s : Traffic) (scan : Option Scan) {source missed : Nat}
    {data : List UInt8}
    (same : ∀ next, scan = some next → next.source = source ∧ next.data = data) :
    (s.left scan (.datagram source data missed)).heard.filterMap Hearing.datagram? ++
        (s.left scan (.datagram source data missed)).inHand =
      s.heard.filterMap Hearing.datagram? ++ [(source, data)] := by
  cases scan with
  | none => simp [left, inHand, List.filterMap_append, Hearing.datagram?]
  | some next =>
      obtain ⟨rfl, rfl⟩ := same next rfl
      simp [left, inHand]

theorem Kept.runReceived (kept : Kept files path s) (free : s.scanning = none)
    {buf : List UInt8} {rest : List Posted}
    (picked : pick? Posted.buffer? s.posted = some (buf, rest)) :
    Kept files path
      { s.left (Scan.begin? s.client.generations buf)
          (.datagram s.client.generations buf 0) with
        posted := rest
        inbound := s.inbound.logTaken s.client.generations buf } := by
  have front := filterMap_of_pick? picked
  have others : rest.filterMap Posted.message? = s.posted.filterMap Posted.message? := by
    refine filterMap_of_pick?_other (fun x z kind => ?_) picked
    cases x with
    | received other => rfl
    | outgoing other => cases kind
  refine ⟨?_, ?_, ?_, ?_⟩
  · have inbound := kept.inbound
    rw [front] at inbound
    exact inbound.logTaken
  · show s.outbound.Exact _ (rest.filterMap Posted.message?)
    rw [others]
    exact kept.outbound
  · have listens := kept.listens
    rw [free] at listens
    cases begins : Scan.begin? s.client.generations buf with
    | none => exact (listens.passes begins).fewer fun _ is => by cases is
    | some scan =>
        refine listens.begins begins (fun _ was => by cases was) fun other is => ?_
        exact .inr (Option.some.inj is).symm
  · refine (processed_left s _ fun next begins => ?_).trans ?_
    · obtain ⟨source, data, -⟩ := Scan.of_begin begins
      exact ⟨source, data⟩
    · have processed := kept.processed
      simp only [inHand, free, Option.toList_none, List.map_nil, List.append_nil] at processed
      rw [processed]
      rfl

/-- The I/O thread makes a step of its scan. -/
theorem Kept.scan (kept : Kept files path s) {scan : Scan} (at_ : s.scanning = some scan)
    {result : Except Fault (Option Scan)} {after : BaseRadioClient}
    (ran : scan.step files s.client.toBaseRadioClient = (result, after)) (aborted : Bool) :
    Kept files path
      { s.left (Scan.onward result) scan.hearing with
        client := { s.client with toBaseRadioClient := after }
        aborted := aborted } := by
  refine ⟨kept.inbound, kept.outbound, ?_, ?_⟩
  · cases onward : Scan.onward result with
    | none =>
        exact kept.listens.ends at_ ran onward fun _ is => by cases is
    | some next =>
        exact kept.listens.goes at_ ran onward fun other is => .inr (Option.some.inj is).symm
  · refine (processed_left s _ fun next onward => ?_).trans ?_
    · obtain ⟨pc, -, rfl⟩ := Scan.onward_of_step ran onward
      exact ⟨rfl, rfl⟩
    · have processed := kept.processed
      rw [inHand, at_] at processed
      exact processed

theorem Kept.runOutgoing (kept : Kept files path s) {message : List UInt8} {rest : List Posted}
    (picked : pick? Posted.message? s.posted = some (message, rest)) (ec : ErrorCode) :
    Kept files path
      { s with
        toClientRun :=
          { s.toClientRun with posted := rest }.runPosted files ec (.outgoing message)
        outbound := s.outbound.logTaken s.client.generations message } := by
  have front := filterMap_of_pick? picked
  have others : rest.filterMap Posted.buffer? = s.posted.filterMap Posted.buffer? := by
    refine filterMap_of_pick?_other (fun x z kind => ?_) picked
    cases x with
    | received other => cases kind
    | outgoing other => rfl
  have inbound : s.inbound.Exact s.client.generations (rest.filterMap Posted.buffer?) := by
    rw [others]
    exact kept.inbound
  have outbound := kept.outbound
  rw [front] at outbound
  simp only [ClientRun.runPosted]
  split
  · exact ⟨inbound, outbound.logTaken, kept.listens, kept.processed⟩
  · exact ⟨inbound, outbound.logTaken, kept.listens, kept.processed⟩

theorem Kept.step (kept : Kept files path s) {a : Action}
    (taken : step files path s a = some t) : Kept files path t := by
  cases a with
  | client a =>
      by_cases posted : ∃ ec, a = .runPosted ec
      · obtain ⟨ec, rfl⟩ := posted
        cases taken
      · have unposted : ∀ ec, a ≠ .runPosted ec := fun ec same => posted ⟨ec, same⟩
        cases stepped : ClientRun.step files s.toClientRun a with
        | none => cases a <;> simp [Traffic.step, stepped] at taken
        | some next =>
            have after := kept.client unposted stepped
            cases a with
            | runPosted ec => exact absurd rfl (unposted ec)
            | _ =>
                simp only [Traffic.step, stepped, Option.ite_none_left_eq_some,
                  Option.some.injEq] at taken
                exact taken.2 ▸ after
  | tell =>
      simp only [Traffic.step, Option.ite_none_left_eq_some, Option.some.injEq] at taken
      exact taken.2 ▸ kept.tell
  | runReceived =>
      simp only [Traffic.step, Option.ite_none_right_eq_some] at taken
      obtain ⟨⟨-, -, -, free⟩, ran⟩ := taken
      split at ran
      · cases ran
      · rename_i buf rest picked
        exact Option.some.inj ran ▸ kept.runReceived free picked
  | scan =>
      simp only [Traffic.step] at taken
      split at taken
      · cases taken
      · rename_i scan at_
        simp only [Option.ite_none_left_eq_some, Option.some.injEq] at taken
        exact taken.2 ▸ kept.scan at_ rfl _
  | runOutgoing ec =>
      simp only [Traffic.step, Option.ite_none_right_eq_some] at taken
      obtain ⟨-, ran⟩ := taken
      split at ran
      · cases ran
      · rename_i message rest picked
        exact Option.some.inj ran ▸ kept.runOutgoing picked ec

theorem kept_of_reachable (reached : (system files path).Reachable s) : Kept files path s := by
  refine reached.invariant ?_ fun _ _ _ kept _ taken => kept.step taken
  rintro first rfl
  exact kept_start

end Kept

/-! ## In order -/

/-- The buffers read are processed in their order, none twice and none by another connection, each
heard when its scan is over, and the client raises what a receiver raises that hears them.  Of one
connection it hears all but one whole. -/
structure InOrder (files : WaveFiles) (path : String) (s : Traffic) : Prop where
  exact : s.inbound.Exact s.client.generations (s.posted.filterMap Posted.buffer?)
  processed : s.heard.filterMap Hearing.datagram? ++ s.inHand = s.inbound.taken
  raised : s.client.onMessageReceived = (Receiver.listen (tableAt files path) s.heard).raised
  inPart : (s.heard.filterMap Hearing.inPart?).Nodup

section InOrder

variable {files : WaveFiles} {path : String} {s : Traffic}

/-- **The inbound path refines the receiver.**  In every run of the owner's calls, the I/O thread
and the senders, what was processed of each connection is a first part of what was read, of the
present one all of it but what is still posted, and the signals raised are those of the
datagrams heard, in their order. -/
theorem inbound_in_order (reached : (system files path).Reachable s) : InOrder files path s := by
  have kept := kept_of_reachable reached
  exact ⟨kept.inbound, kept.processed, kept.listens.represents.raised, kept.listens.once⟩

/-- `sendV2xMessage` answers true exactly for the messages it posts. -/
theorem acceptedBy_send (c : ClientRun) (message : List UInt8) (posted : Bool) :
    acceptedBy c (.send message posted) =
      if (c.client.sendV2xMessage message posted).2 then [message] else [] := by
  simp only [acceptedBy, UdpRadioClient.sendV2xMessage]
  split
  · rfl
  · split <;> rfl

/-- **The outbound path is first in, first out.**  Of the messages a connection accepted a first
part was handed to the socket, in their order; of the present connection all but those that
still wait. -/
theorem outbound_in_order (reached : (system files path).Reachable s) :
    s.outbound.Exact s.client.generations (s.posted.filterMap Posted.message?) :=
  (kept_of_reachable reached).outbound

/-- The client connects, accepts two messages and reads a datagram that holds a BSM. -/
def readsOnce : List ClientRun.Action :=
  ClientRun.Action.connect ⟨"127.0.0.1", 1516, 5398⟩ :: List.replicate 13 (.step true) ++
    ClientRun.Action.send [1] true :: .send [2] true :: .completion .success ::
      List.replicate 5 (.handle { data := [0x00, 0x14, 0x05, 0x00, 0x14, 0x02, 0x01, 0x02] })

/-- The I/O thread runs the first message and the datagram, and is at its second byte when the
client is told of its file. -/
def bothWays : List Action :=
  readsOnce.map .client ++ [Action.runOutgoing .success, .runReceived, .scan, .tell] ++
    List.replicate 5 .scan

def busy : Traffic :=
  ((system shippedFiles "share/v2x_ros_driver/etc/wave.json").run {} bothWays).getD {}

theorem busy_reached :
    (system shippedFiles "share/v2x_ros_driver/etc/wave.json").Reachable busy := by
  have start : (system shippedFiles "share/v2x_ros_driver/etc/wave.json").start {} := rfl
  have succeeds : ((system shippedFiles "share/v2x_ros_driver/etc/wave.json").run
      {} bothWays).isSome = true := by decide +kernel
  exact System.reachable_getD (.start start) succeeds {}

theorem busy_inbound :
    busy.heard = [.told, .datagram 1 [0x00, 0x14, 0x05, 0x00, 0x14, 0x02, 0x01, 0x02] 1] ∧
      busy.client.onMessageReceived = [⟨[0x00, 0x14, 0x02, 0x01, 0x02], 20⟩] ∧
      InOrder shippedFiles "share/v2x_ros_driver/etc/wave.json" busy :=
  ⟨by decide +kernel, by decide +kernel, inbound_in_order busy_reached⟩

theorem busy_outbound :
    busy.outbound.taken = [(1, [1])] ∧
      busy.outbound.Exact busy.client.generations (busy.posted.filterMap Posted.message?) :=
  ⟨by decide +kernel, outbound_in_order busy_reached⟩

end InOrder

end Traffic

end V2xRosDriver.Udp
