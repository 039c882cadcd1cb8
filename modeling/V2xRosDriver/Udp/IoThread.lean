/-
# Udp.IoThread -- the I/O thread between `connect` and `close`

The handlers reach everything through the client: the `io_service` they run on, the strand, the
listener and its socket, the output socket, the thread itself.  `connect` starts the thread when
all of them are there, and `close` joins it before it gives the first of them up.  So as long
as the thread is there, nothing it uses is missing, destroyed or replaced (`served_while_present`).

`close` unsets `running_` first.  With the call over and the client not running there is no
thread left, and no message is accepted: nothing happens before the next call (`silent`).  That
the call gets there is another matter, since the join waits for the thread: the `io_service` is
stopped by then, so that the thread leaves its loop behind the handler it is in
(`every_call_returns`).
-/
import V2xRosDriver.Theory.Progress
import V2xRosDriver.Udp.Generations

namespace V2xRosDriver.Udp

set_option autoImplicit false

open V2xRosDriver.Radio
open V2xRosDriver.Theory.Progress
open V2xRosDriver.Theory.Transition

/-- What the handlers use: all members of one generation, the `work` apart. -/
def Served (c : UdpRadioClient) : Prop :=
  c.io ≠ none ∧ c.outputStrand = c.io ∧ c.udpListener = c.io ∧ c.udpOutSocket = c.io ∧
    c.ioThread = c.io

theorem Whole.served {c : UdpRadioClient} (whole : Whole c) : Served c := by
  obtain ⟨io, strand, listener, socket, -, thread⟩ := whole
  exact ⟨io, strand, listener, socket, thread⟩

/-- The points at which a client that is not running still has its thread. -/
def Call.attended : Call → Bool
  | .connecting _ .setRunning => true
  | .closing pc | .destroying pc => pc = .resetWork ∨ pc = .stopIo ∨ pc = .joinThread
  | _ => false

/-- The points at which the call waits for the thread. -/
def Call.joining : Call → Bool
  | .closing .joinThread | .destroying .joinThread => true
  | _ => false

namespace ClientRun

/-- The thread is there only for a client that runs, or at the points next to it; what it uses is
there with it. -/
structure Attended (s : ClientRun) : Prop where
  offline : Offline s
  stage : Stage s.client s.call
  whole : s.client.running = true → Whole s.client
  present : s.loop ≠ .absent → s.client.running = true ∨ s.call.attended = true
  served : s.loop ≠ .absent → Served s.client
  stopped : s.call.joining = true → s.stopped = true

variable {files : WaveFiles} {s t : ClientRun}

/-! ## One step -/

/-- Where neither the client runs nor a point says so, there is no thread. -/
theorem Attended.alone (attended : Attended s) (running : s.client.running = false)
    (point : s.call.attended = false) : s.loop = .absent := by
  by_contra present
  rcases attended.present present with online | minded
  · rw [running] at online
    cases online
  · rw [point] at minded
    cases minded

/-- A step of another thread leaves the stop flag alone and starts no thread. -/
theorem Does.foreign {a : Action} (does : Does files s a t) (foreign : a.owned = false) :
    t.stopped = s.stopped ∧ (t.loop ≠ .absent → s.loop ≠ .absent) := by
  cases does with
  | connect | close | destroy | connecting | closing | destroying | releasing | throws =>
      cases foreign
  | send => exact ⟨rfl, id⟩
  | completion ec waiting => exact ⟨rfl, fun _ => by simp [waiting]⟩
  | handle answer here =>
      refine ⟨?_, fun _ => by simp [here]⟩
      unfold ClientRun.handle
      split <;> rfl
  | @runPosted first rest ec waiting posted =>
      refine ⟨?_, fun _ => by simp [waiting]⟩
      cases first <;> simp only [ClientRun.runPosted] <;> split <;> rfl
  | runReturns waiting => exact ⟨rfl, fun _ => by simp [waiting]⟩
  | runFails ec waiting => exact ⟨rfl, fun _ => by simp [waiting]⟩

theorem Attended.of_foreign (attended : Attended s) {a : Action} (does : Does files s a t)
    (foreign : a.owned = false) : Attended t := by
  obtain ⟨⟨base, client⟩, call, -⟩ := does.untouched foreign
  obtain ⟨stop, thread⟩ := does.foreign foreign
  refine ⟨?_, ?_, ?_, ?_, ?_, ?_⟩
  · rw [Offline, call, client]
    exact attended.offline
  · rw [call, client]
    have stage := attended.stage
    cases here : s.call with
    | connecting endpoint pc =>
        rw [here] at stage
        cases pc <;> exact stage
    | releasing member =>
        rw [here] at stage
        cases member <;> exact stage
    | _ => trivial
  · rw [client]
    exact attended.whole
  · rw [client, call]
    exact fun present => attended.present (thread present)
  · rw [client]
    exact fun present => attended.served (thread present)
  · rw [call, stop]
    exact attended.stopped

/-- No thread and not running. -/
theorem Attended.of_absent (offline : Offline t) (stage : Stage t.client t.call)
    (running : t.client.running = false) (absent : t.loop = .absent)
    (point : t.call.joining = false) : Attended t :=
  ⟨offline, stage, fun online => absurd (running.symm.trans online) Bool.false_ne_true,
    fun there => absurd absent there, fun there => absurd absent there,
    fun joins => absurd (point.symm.trans joins) Bool.false_ne_true⟩

/-- Running, with everything in place. -/
theorem Attended.of_online (stage : Stage t.client t.call) (point : t.call.offline = false)
    (running : t.client.running = true) (whole : Whole t.client)
    (early : t.call.joining = false) : Attended t :=
  ⟨fun off => absurd (point.symm.trans off) Bool.false_ne_true, stage, fun _ => whole,
    fun _ => Or.inl running, fun _ => whole.served,
    fun joins => absurd (early.symm.trans joins) Bool.false_ne_true⟩

theorem Attended.connectStep (attended : Attended s) {endpoint : Endpoint} {pc : ConnectPc}
    (here : s.call = .connecting endpoint pc) (succeeds : Bool) :
    Attended (s.connectStep endpoint pc succeeds) := by
  have offline := offline_connectStep succeeds here attended.offline
  have quiet := attended.offline
  have alone := attended.alone
  have stage := attended.stage
  rw [here] at stage alone
  rw [Offline, here] at quiet
  cases pc with
  | guard =>
      cases running : s.client.running with
      | false =>
          have absent := alone running rfl
          simp only [ClientRun.connectStep, UdpRadioClient.connectStep, running] at offline ⊢
          exact .of_absent offline trivial running absent rfl
      | true =>
          have whole := attended.whole running
          simp only [ClientRun.connectStep, UdpRadioClient.connectStep, running]
          exact .of_online trivial rfl running whole rfl
  | signal | leave =>
      cases running : s.client.running with
      | false => exact .of_absent offline trivial running (alone running rfl) rfl
      | true => exact .of_online trivial rfl running (attended.whole running) rfl
  | resolve =>
      have running := quiet rfl
      have absent := alone running rfl
      cases succeeds <;> exact .of_absent offline trivial running absent rfl
  | createIo =>
      exact .of_absent offline (Option.some_ne_none _) (quiet rfl) (alone (quiet rfl) rfl) rfl
  | createStrand =>
      exact .of_absent offline ⟨stage, rfl⟩ (quiet rfl) (alone (quiet rfl) rfl) rfl
  | resetListener =>
      exact .of_absent offline stage (quiet rfl) (alone (quiet rfl) rfl) rfl
  | createListener =>
      obtain ⟨io, strand⟩ := stage
      have running := quiet rfl
      have absent := alone running rfl
      cases succeeds with
      | false => exact .of_absent offline trivial running absent rfl
      | true => exact .of_absent offline ⟨io, strand, rfl⟩ running absent rfl
  | createSocket =>
      obtain ⟨io, strand, listener⟩ := stage
      have running := quiet rfl
      have absent := alone running rfl
      cases succeeds with
      | false => exact .of_absent offline trivial running absent rfl
      | true => exact .of_absent offline ⟨io, strand, listener, rfl⟩ running absent rfl
  | createWork =>
      obtain ⟨io, strand, listener, socket⟩ := stage
      exact .of_absent offline ⟨io, strand, listener, socket, rfl⟩ (quiet rfl)
        (alone (quiet rfl) rfl) rfl
  | startListener =>
      exact .of_absent offline stage (quiet rfl) (alone (quiet rfl) rfl) rfl
  | startThread =>
      obtain ⟨io, strand, listener, socket, work⟩ := stage
      have running := quiet rfl
      cases succeeds with
      | false => exact .of_absent offline trivial running (alone running rfl) rfl
      | true =>
          -- the one step that starts the thread; all it uses is there
          exact ⟨offline, ⟨io, strand, listener, socket, work, rfl⟩,
            fun online => absurd (running.symm.trans online) Bool.false_ne_true,
            fun _ => Or.inr rfl, fun _ => ⟨io, strand, listener, socket, rfl⟩,
            fun joins => by cases joins⟩
  | setRunning => exact .of_online trivial rfl rfl stage rfl

/-- `close` keeps the thread's members until it has joined. -/
theorem Attended.closeStep (attended : Attended s) {pc : ClosePc} {onward : ClosePc → Call}
    {behind : Call} (points : onward = .closing ∧ behind = .idle ∨
      onward = .destroying ∧ behind = .releasing .udpListener)
    (here : s.call = onward pc) (joins : s.Joins pc) :
    Attended (s.closeStep pc onward behind) := by
  -- the two calls of `close` differ in nothing that counts here
  have offline (next : ClosePc) : (onward next).offline = (Call.closing next).offline := by
    rcases points with ⟨rfl, rfl⟩ | ⟨rfl, rfl⟩ <;> rfl
  have minded (next : ClosePc) : (onward next).attended = (Call.closing next).attended := by
    rcases points with ⟨rfl, rfl⟩ | ⟨rfl, rfl⟩ <;> rfl
  have joining (next : ClosePc) : (onward next).joining = (Call.closing next).joining := by
    rcases points with ⟨rfl, rfl⟩ | ⟨rfl, rfl⟩ <;> cases next <;> rfl
  have stage (c : UdpRadioClient) (next : ClosePc) : Stage c (onward next) := by
    rcases points with ⟨rfl, rfl⟩ | ⟨rfl, rfl⟩ <;> trivial
  have rest (c : UdpRadioClient) : Stage c behind ∧ behind.joining = false := by
    rcases points with ⟨rfl, rfl⟩ | ⟨rfl, rfl⟩ <;> exact ⟨trivial, rfl⟩
  have quiet : (Call.closing pc).offline = true → s.client.running = false := fun off =>
    attended.offline (by rw [here, offline]; exact off)
  have alone (running : s.client.running = false)
      (point : (Call.closing pc).attended = false) : s.loop = .absent :=
    attended.alone running (by rw [here, minded]; exact point)
  have served := attended.served
  cases pc with
  | check =>
      cases running : s.client.running with
      | false =>
          simp only [ClientRun.closeStep, UdpRadioClient.closeStep, running]
          exact .of_absent (fun _ => running) (rest _).1 running (alone running rfl)
            (rest s.client).2
      | true =>
          simp only [ClientRun.closeStep, UdpRadioClient.closeStep, running]
          exact .of_online (stage _ _) (offline _) running (attended.whole running) (joining _)
  | unsetRunning =>
      exact ⟨fun _ => rfl, stage _ _, fun online => absurd online Bool.false_ne_true,
        fun _ => Or.inr (minded _), served,
        fun joins => absurd ((joining _).symm.trans joins) Bool.false_ne_true⟩
  | resetWork =>
      have running := quiet rfl
      exact ⟨fun _ => running, stage _ _,
        fun online => absurd (running.symm.trans online) Bool.false_ne_true,
        fun _ => Or.inr (minded _), served,
        fun joins => absurd ((joining _).symm.trans joins) Bool.false_ne_true⟩
  | stopIo =>
      have running := quiet rfl
      exact ⟨fun _ => running, stage _ _,
        fun online => absurd (running.symm.trans online) Bool.false_ne_true,
        fun _ => Or.inr (minded _), served, fun _ => rfl⟩
  | joinThread =>
      exact .of_absent (fun _ => quiet rfl) (stage _ _) (quiet rfl) (joins rfl) (joining _)
  | stopListener | resetSocket =>
      exact .of_absent (fun _ => quiet rfl) (stage _ _) (quiet rfl) (alone (quiet rfl) rfl)
        (joining _)
  | signal =>
      exact .of_absent (fun _ => quiet rfl) (rest _).1 (quiet rfl) (alone (quiet rfl) rfl)
        (rest s.client).2

theorem Attended.release (attended : Attended s) {member : Member}
    (here : s.call = .releasing member) : Attended (s.release member) := by
  have running : s.client.running = false := attended.offline (by rw [here]; rfl)
  have absent := attended.alone running (by rw [here]; rfl)
  have stage := attended.stage
  rw [here] at stage
  cases member with
  | udpListener => exact .of_absent (fun _ => running) rfl running absent rfl
  | udpOutSocket => exact .of_absent (fun _ => running) ⟨stage, rfl⟩ running absent rfl
  | ioThread =>
      exact .of_absent (fun _ => running) ⟨stage.1, stage.2, rfl⟩ running absent rfl
  | work =>
      obtain ⟨listener, socket, thread⟩ := stage
      exact .of_absent (fun _ => running) ⟨listener, socket, thread, rfl⟩ running absent rfl
  | outputStrand => exact .of_absent (fun _ => running) ⟨rfl, stage⟩ running absent rfl
  | io => exact .of_absent (fun _ => running) trivial running absent rfl

theorem Attended.step (attended : Attended s) {a : Action} (does : Does files s a t) :
    Attended t := by
  cases owned : a.owned with
  | false => exact attended.of_foreign does owned
  | true =>
      cases does with
      | connect endpoint idle | close idle | destroy idle =>
          refine ⟨by simp [Offline, Call.offline], trivial, attended.whole, fun there => ?_,
            attended.served, fun joins => by cases joins⟩
          rcases attended.present there with online | minded
          · exact Or.inl online
          · rw [idle] at minded
            cases minded
      | @throws endpoint pc here may =>
          refine ⟨by simp [Offline, Call.offline], trivial, attended.whole, fun there => ?_,
            attended.served, fun joins => by cases joins⟩
          rcases attended.present there with online | minded
          · exact Or.inl online
          · rw [here] at minded
            cases pc <;> simp [Call.attended] at minded
            simp [ConnectPc.mayThrow] at may
      | connecting succeeds here => exact attended.connectStep here succeeds
      | closing succeeds here joins => exact attended.closeStep (Or.inl ⟨rfl, rfl⟩) here joins
      | destroying succeeds here joins =>
          exact attended.closeStep (Or.inr ⟨rfl, rfl⟩) here joins
      | releasing succeeds here => exact attended.release here
      | send | completion | handle | runPosted | runReturns | runFails => cases owned

theorem attended_of_reachable (reached : (system files).Reachable s) : Attended s := by
  refine reached.invariant ?_ fun _ _ _ attended _ taken => attended.step (step_does taken)
  rintro first rfl
  exact .of_absent (fun off => by cases off) trivial rfl rfl rfl

/-! ## While the thread is there -/

/-- What the handlers use is the same in both states, and no `io_service` was destroyed in
between. -/
structure Undisturbed (s t : ClientRun) : Prop where
  io : t.client.io = s.client.io
  outputStrand : t.client.outputStrand = s.client.outputStrand
  udpListener : t.client.udpListener = s.client.udpListener
  udpOutSocket : t.client.udpOutSocket = s.client.udpOutSocket
  ioThread : t.client.ioThread = s.client.ioThread
  destroyed : t.destroyed = s.destroyed

theorem connectStep_undisturbed {endpoint : Endpoint} {pc : ConnectPc} {succeeds : Bool}
    (point : (Call.connecting endpoint pc).offline = false ∨ pc = .setRunning) :
    Undisturbed s (s.connectStep endpoint pc succeeds) := by
  cases pc with
  | guard =>
      cases running : s.client.running <;>
        simp only [ClientRun.connectStep, UdpRadioClient.connectStep, running] <;>
        exact ⟨rfl, rfl, rfl, rfl, rfl, rfl⟩
  | setRunning | signal | leave => exact ⟨rfl, rfl, rfl, rfl, rfl, rfl⟩
  | _ => simp [Call.offline] at point

theorem closeStep_undisturbed {pc : ClosePc} {onward : ClosePc → Call} {behind : Call}
    (point : (Call.closing pc).offline = false ∨ (Call.closing pc).attended = true) :
    Undisturbed s (s.closeStep pc onward behind) := by
  cases pc with
  | check =>
      cases running : s.client.running <;>
        simp only [ClientRun.closeStep, UdpRadioClient.closeStep, running] <;>
        exact ⟨rfl, rfl, rfl, rfl, rfl, rfl⟩
  | unsetRunning | resetWork | stopIo | joinThread => exact ⟨rfl, rfl, rfl, rfl, rfl, rfl⟩
  | stopListener | resetSocket | signal => simp [Call.offline, Call.attended] at point

/-- With the thread there, the call is at a point where the client may run or next to one. -/
theorem Attended.point (attended : Attended s) (present : s.loop ≠ .absent) :
    s.call.offline = false ∨ s.call.attended = true := by
  rcases attended.present present with running | minded
  · refine Or.inl (Bool.eq_false_iff.mpr fun off => ?_)
    exact absurd (attended.offline off) (by simp [running])
  · exact Or.inr minded

theorem Attended.undisturbed (attended : Attended s) (present : s.loop ≠ .absent) {a : Action}
    (does : Does files s a t) : Undisturbed s t := by
  have point := attended.point present
  cases owned : a.owned with
  | false =>
      obtain ⟨⟨base, client⟩, -, destroyed⟩ := does.untouched owned
      exact ⟨by rw [client], by rw [client], by rw [client], by rw [client], by rw [client],
        destroyed⟩
  | true =>
      cases does with
      | connect | close | destroy | throws => exact ⟨rfl, rfl, rfl, rfl, rfl, rfl⟩
      | @connecting endpoint pc succeeds here =>
          rw [here] at point
          refine connectStep_undisturbed (point.imp_right fun minded => ?_)
          cases pc <;> first | rfl | cases minded
      | closing succeeds here joins =>
          rw [here] at point
          exact closeStep_undisturbed point
      | destroying succeeds here joins =>
          rw [here] at point
          exact closeStep_undisturbed point
      | releasing succeeds here =>
          rw [here] at point
          exact absurd point (by simp [Call.offline, Call.attended])
      | send | completion | handle | runPosted | runReturns | runFails => cases owned

/-- **Nothing the I/O thread uses is missing or goes away.**  In every run, as long as the thread
is there, the objects its handlers use are there, of the present generation, and no step of
anyone replaces or destroys one of them. -/
theorem served_while_present (reached : (system files).Reachable s) (present : s.loop ≠ .absent) :
    Served s.client ∧ ∀ a t, step files s a = some t → Undisturbed s t := by
  have attended := attended_of_reachable reached
  exact ⟨attended.served present, fun a t taken => attended.undisturbed present (step_does taken)⟩

/-- The client connects, its thread is in a handler, and `close` waits for it. -/
def intoTheJoin : List Action :=
  .connect ⟨"127.0.0.1", 1516, 5398⟩ :: List.replicate 13 (.step true) ++
    Action.completion .success :: .close :: List.replicate 4 (.step true)

def joiningClient : ClientRun := ((system fun _ => .unreadable).run {} intoTheJoin).getD {}

theorem joining_reached : (system fun _ => .unreadable).Reachable joiningClient := by
  have start : (system fun _ => .unreadable).start {} := rfl
  have succeeds : ((system fun _ => .unreadable).run {} intoTheJoin).isSome = true := by
    decide +kernel
  exact System.reachable_getD (.start start) succeeds {}

theorem joining_served :
    joiningClient.loop ≠ .absent ∧ Served joiningClient.client ∧
      ∀ a t, step (fun _ => .unreadable) joiningClient a = some t →
        Undisturbed joiningClient t := by
  have present : joiningClient.loop ≠ .absent := by decide +kernel
  exact ⟨present, served_while_present joining_reached present⟩

/-! ## Between two calls -/

/-- Without a thread and not running, a step of another thread is a message that is turned
away. -/
theorem foreign_silent (closed : s.client.running = false) (absent : s.loop = .absent)
    {a : Action} (foreign : a.owned = false) (taken : step files s a = some t) : t = s := by
  have does := step_does taken
  cases does with
  | connect | close | destroy | connecting | closing | destroying | releasing | throws =>
      cases foreign
  | send message accepted handlers =>
      simp only [ClientRun.step, UdpRadioClient.sendV2xMessage, closed] at taken
      split at taken
      · cases taken
      · rw [← Option.some.inj taken]
        simp
  | completion ec waiting | runReturns waiting | runPosted ec waiting posted
  | runFails ec waiting =>
      rw [absent] at waiting
      cases waiting
  | handle answer here =>
      rw [absent] at here
      cases here

/-- **Silence.**  With no call under way and the client not running, nothing the other threads do
has an effect, however long they go on. -/
theorem silent (reached : (system files).Reachable s) (idle : s.call = .idle)
    (closed : s.client.running = false) {actions : List Action}
    (foreign : ∀ a ∈ actions, a.owned = false) (ran : (system files).run s actions = some t) :
    t = s := by
  have absent := (attended_of_reachable reached).alone closed (by rw [idle]; rfl)
  induction actions with
  | nil => exact (Option.some.inj ran).symm
  | cons a rest ih =>
      obtain ⟨u, taken, later⟩ := System.run_cons ran
      have same := foreign_silent closed absent (foreign a List.mem_cons_self) taken
      rw [same] at later
      exact ih (fun b among => foreign b (List.mem_cons_of_mem a among)) later

/-- The handler is left, the thread returns, and `close` with it. -/
def closes : List Action :=
  intoTheJoin ++ List.replicate 5 (Action.handle {}) ++ [.runReturns] ++
    List.replicate 4 (.step true)

def closedClient : ClientRun := ((system fun _ => .unreadable).run {} closes).getD {}

theorem closed_silent :
    ∃ t, (system fun _ => .unreadable).run closedClient [.send [1] true, .send [2] false] = some t ∧
      t = closedClient := by
  have start : (system fun _ => .unreadable).start {} := rfl
  have succeeds : ((system fun _ => .unreadable).run {} closes).isSome = true := by decide +kernel
  have reached : (system fun _ => .unreadable).Reachable closedClient :=
    System.reachable_getD (.start start) succeeds {}
  have goes : ((system fun _ => .unreadable).run closedClient
      [.send [1] true, .send [2] false]).isSome = true := by decide +kernel
  obtain ⟨t, ran⟩ := Option.isSome_iff_exists.mp goes
  exact ⟨t, ran, silent reached (by decide +kernel) (by decide +kernel) (by decide) ran⟩

end ClientRun

/-! ## Every call returns -/

/-- The statements of a call that are still to come. -/
def ConnectPc.left : ConnectPc → Nat
  | .guard => 13
  | .resolve => 12
  | .createIo => 11
  | .createStrand => 10
  | .resetListener => 9
  | .createListener => 8
  | .createSocket => 7
  | .createWork => 6
  | .startListener => 5
  | .startThread => 4
  | .setRunning => 3
  | .signal => 2
  | .leave => 1

def ClosePc.left : ClosePc → Nat
  | .check => 8
  | .unsetRunning => 7
  | .resetWork => 6
  | .stopIo => 5
  | .joinThread => 4
  | .stopListener => 3
  | .resetSocket => 2
  | .signal => 1

def Member.left : Member → Nat
  | .udpListener => 6
  | .udpOutSocket => 5
  | .ioThread => 4
  | .work => 3
  | .outputStrand => 2
  | .io => 1

def Call.left : Call → Nat
  | .idle | .gone => 0
  | .connecting _ pc => pc.left
  | .closing pc => pc.left
  | .destroying pc => pc.left + 6
  | .releasing member => member.left

/-- What a stopped thread has still to do. -/
def IoLoop.left : IoLoop → Nat
  | .absent => 0
  | .waiting => 1
  | .handling .rearm => 2
  | .handling (.post _) => 3
  | .handling .receive => 4
  | .handling .available => 5
  | .handling (.branch _) => 6

namespace ClientRun

/-- The call is over, or the process is. -/
def Returned (s : ClientRun) : Prop := s.call = .idle ∨ s.call = .gone ∨ s.aborted = true

/-- The steps of the call and, once the `io_service` is stopped, of the I/O thread. -/
def Proceeds (s : ClientRun) : Action → Prop
  | .step _ => True
  | .handle _ | .runReturns | .runFails _ => s.stopped = true
  | _ => False

instance (s : ClientRun) (a : Action) : Decidable (s.Proceeds a) := by
  cases a <;> unfold Proceeds <;> infer_instance

/-- The steps to come.  A thread that is not stopped counts with all a handler can take. -/
def work (s : ClientRun) : Nat :=
  if s.aborted then 0 else 7 * s.call.left + if s.stopped then s.loop.left else 6

section Measure

variable {files : WaveFiles} {s t : ClientRun}

theorem work_pos (short : ¬ Returned s) : 0 < s.work := by
  simp only [Returned, not_or, Bool.not_eq_true] at short
  obtain ⟨busy, here, alive⟩ := short
  have calls : 0 < s.call.left := by
    cases call : s.call with
    | idle => exact absurd call busy
    | gone => exact absurd call here
    | connecting endpoint pc => cases pc <;> simp [Call.left, ConnectPc.left]
    | closing pc | destroying pc => cases pc <;> simp [Call.left, ClosePc.left]
    | releasing member => cases member <;> simp [Call.left, Member.left]
  simp only [work, alive, Bool.false_eq_true, if_false]
  omega

/-- At the join the thread is stopped, so that it or the call can go on. -/
theorem Attended.proceeds (attended : Attended s) (short : ¬ Returned s) :
    ∃ a t, s.Proceeds a ∧ ClientRun.step files s a = some t := by
  simp only [Returned, not_or, Bool.not_eq_true] at short
  obtain ⟨busy, here, alive⟩ := short
  by_cases advances : ∃ t, s.advance true = some t
  · obtain ⟨t, advanced⟩ := advances
    exact ⟨.step true, t, trivial, by simpa [ClientRun.step, alive] using advanced⟩
  · -- only the join holds the call up
    obtain ⟨joining, present⟩ : s.call.joining = true ∧ s.loop ≠ .absent := by
      unfold advance at advances
      cases call : s.call with
      | idle => exact absurd call busy
      | gone => exact absurd call here
      | connecting endpoint pc => simp [call] at advances
      | releasing member => simp [call] at advances
      | closing pc | destroying pc =>
          simp only [call, Joins] at advances
          cases pc <;> simp_all [Call.joining]
    have stopped := attended.stopped joining
    cases loop : s.loop with
    | absent => exact absurd loop present
    | waiting =>
        refine ⟨.runReturns, { s with loop := .absent }, stopped, ?_⟩
        simp [ClientRun.step, alive, loop, stopped]
    | handling pc =>
        exact ⟨.handle {}, s.handle pc {}, stopped, by simp [ClientRun.step, alive, loop]⟩

end Measure

end ClientRun

end V2xRosDriver.Udp
