/-
# Udp.ReceivePath -- does the listener stay armed?

`handle_recv_udp` asks for the next receive again unless it is called with an error other
than `operation_aborted`; then it raises the listener's `onError`, and `connect` has
connected nothing to that signal.  The client goes on as connected and hears nothing more.
Without such a completion a receive is always pending or being handled
(`armed_of_reachable`).
-/
import V2xRosDriver.Udp.ClientRun

namespace V2xRosDriver.Udp

set_option autoImplicit false

open V2xRosDriver.Radio
open V2xRosDriver.Theory.Transition

/-- Past its guard a `connect` call is about to connect. -/
def Call.establishing : Call → Bool
  | .connecting _ .guard => false
  | .connecting _ _ => true
  | _ => false

/-- There is a listener, and it is still to be started. -/
def Call.unstarted : Call → Bool
  | .connecting _ .createSocket | .connecting _ .createWork | .connecting _ .startListener => true
  | _ => false

/-- The listener was started, and `running_` is still to be set. -/
def Call.launching : Call → Bool
  | .connecting _ .startThread | .connecting _ .setRunning => true
  | _ => false

/-- `close` has cleared `running_` and not yet joined the I/O thread. -/
def Call.stopping : Call → Bool
  | .closing .resetWork | .closing .stopIo | .closing .joinThread => true
  | .destroying .resetWork | .destroying .stopIo | .destroying .joinThread => true
  | _ => false

namespace ClientRun

/-- `handle_recv_udp` is executing. -/
def Handling (s : ClientRun) : Prop := ∃ pc, s.loop = .handling pc

/-- A connected client that has raised no error has a receive pending or handles one. -/
def Armed (s : ClientRun) : Prop :=
  s.client.running = true → s.onError = [] → s.listener.receivePending = true ∨ s.Handling

/-- The client is being closed, or it has raised `onError` since it was connected. -/
def Told (s : ClientRun) : Prop :=
  s.call.stopping = true ∨ (s.call.establishing = false ∧ s.onError ≠ [])

instance (s : ClientRun) : Decidable s.Told := inferInstanceAs (Decidable (_ ∨ _))

/-- No receive completes with another error before the client has told anybody. -/
def Hears (s : ClientRun) : Action → Prop
  | .completion (.other _) => s.Told
  | _ => True

instance (s : ClientRun) : (a : Action) → Decidable (s.Hears a)
  | .completion (.other _) => inferInstanceAs (Decidable s.Told)
  | .completion .success | .completion .operationAborted => isTrue trivial
  | .connect _ | .close | .destroy | .step _ | .throws | .send _ _ => isTrue trivial
  | .handle _ | .runPosted _ | .runReturns | .runFails _ => isTrue trivial

/-- What keeps the listener armed: the I/O thread is alive only while the client is, and a
handler entered with an error has nobody left to tell. -/
structure Receiving (s : ClientRun) : Prop where
  offline : Offline s
  alive : s.loop ≠ .absent → s.client.running = true ∨
    (∃ endpoint, s.call = .connecting endpoint .setRunning) ∨ s.call.stopping = true
  fresh : s.call.unstarted = true → s.listener.running = false
  armed : s.client.running = true ∨ s.call.launching = true → s.listener.running = true ∧
    (s.listener.receivePending = true ∨ s.Handling ∨ s.Told)
  failed : ∀ value, s.loop = .handling (.branch (.other value)) → s.Told

variable {files : WaveFiles} {s t : ClientRun}

theorem offline_of_stopping {call : Call} (stopping : call.stopping = true) :
    call.offline = true := by
  cases call with
  | closing pc => cases pc <;> first | rfl | cases stopping
  | destroying pc => cases pc <;> first | rfl | cases stopping
  | _ => cases stopping

theorem Receiving.isArmed (receiving : Receiving s) : Armed s := by
  intro running silent
  rcases (receiving.armed (Or.inl running)).2 with pending | handling | told
  · exact Or.inl pending
  · exact Or.inr handling
  · exfalso
    rcases told with stopping | ⟨-, raised⟩
    · have off : s.call.offline = true := offline_of_stopping stopping
      exact absurd (receiving.offline off) (by simp [running])
    · exact raised silent

/-- While a `connect` call is about to connect, nobody has been told anything. -/
theorem not_told_of_establishing (establishing : s.call.establishing = true) : ¬ s.Told := by
  rintro (stopping | ⟨idle, -⟩)
  · cases here : s.call with
    | connecting endpoint pc => simp [here, Call.stopping] at stopping
    | _ => simp [here, Call.establishing] at establishing
  · rw [establishing] at idle
    cases idle

theorem not_handling_of_waiting (waiting : s.loop = .waiting) : ¬ s.Handling := by
  rintro ⟨pc, handling⟩
  rw [waiting] at handling
  cases handling

/-- A listener that is accounted for stays so where nothing is handled or told less. -/
theorem accounted
    (armed : s.listener.running = true ∧ (s.listener.receivePending = true ∨ s.Handling ∨ s.Told))
    (listener : t.listener = s.listener) (handles : s.Handling → t.Handling)
    (tells : s.Told → t.Told) :
    t.listener.running = true ∧ (t.listener.receivePending = true ∨ t.Handling ∨ t.Told) := by
  rw [listener]
  obtain ⟨listening, pending | handling | told⟩ := armed
  · exact ⟨listening, Or.inl pending⟩
  · exact ⟨listening, Or.inr (Or.inl (handles handling))⟩
  · exact ⟨listening, Or.inr (Or.inr (tells told))⟩

/-- The I/O thread is gone wherever a client that is not running does not account for it. -/
theorem Receiving.absent (receiving : Receiving s) (running : s.client.running = false)
    (launched : ∀ endpoint, s.call ≠ .connecting endpoint .setRunning)
    (calm : s.call.stopping = false) : s.loop = .absent := by
  by_contra present
  rcases receiving.alive present with online | ⟨endpoint, here⟩ | stopping
  · rw [running] at online
    cases online
  · exact launched endpoint here
  · rw [calm] at stopping
    cases stopping

/-- Without the I/O thread and away from the end of `connect` there is little to keep. -/
theorem Receiving.of_absent (running : t.client.running = false) (absent : t.loop = .absent)
    (early : t.call.launching = false)
    (fresh : t.call.unstarted = true → t.listener.running = false) : Receiving t where
  offline := fun _ => running
  alive := fun present => absurd absent present
  fresh := fresh
  armed := by
    rintro (online | launching)
    · rw [running] at online
      cases online
    · rw [early] at launching
      cases launching
  failed := by
    intro value failing
    rw [absent] at failing
    cases failing

theorem Receiving.of_absent_begun (running : t.client.running = false) (absent : t.loop = .absent)
    (early : t.call.launching = false) (begun : t.call.unstarted = false) : Receiving t :=
  .of_absent running absent early fun unstarted => absurd (begun.symm.trans unstarted) (by decide)

/-- The owner may turn to something else where nothing is under way. -/
theorem Receiving.turn (receiving : Receiving s)
    (down : s.client.running = false → s.loop = .absent) {call : Call}
    (settled : call.offline = false ∧ call.unstarted = false ∧ call.launching = false)
    (told : s.Told → Told { s with call := call }) : Receiving { s with call := call } := by
  obtain ⟨on, started, launched⟩ := settled
  cases running : s.client.running with
  | false =>
      exact .of_absent_begun running (down running) launched started
  | true =>
      refine ⟨fun off => ?_, fun _ => Or.inl running, fun unstarted => ?_, fun _ => ?_, ?_⟩
      · exact absurd (on.symm.trans off) (by decide)
      · exact absurd (started.symm.trans unstarted) (by decide)
      · exact accounted (receiving.armed (Or.inl running)) rfl (fun handling => handling) told
      · exact fun value failing => told (receiving.failed value failing)

/-! ## The I/O thread -/

/-- More errors raised, nobody is told less. -/
theorem Told.of_raised {errors : List ErrorCode} (told : s.Told) :
    Told { s with onError := s.onError ++ errors } := by
  rcases told with stopping | ⟨idle, raised⟩
  · exact Or.inl stopping
  · exact Or.inr ⟨idle, by simp [raised]⟩

/-- A step of `handle_recv_udp` throws, or goes on, or returns; and where it returns from a
running listener, a receive is pending again or the handler was entered with an error. -/
theorem handleRecvUdp_cases (l : UdpListener) (answer : SocketAnswer) (pc : RecvPc) :
    l.handleRecvUdp answer pc = none ∨
      (∃ buffers next, l.handleRecvUdp answer pc = some (l, buffers, .goes next) ∧
        ∀ value, next ≠ .branch (.other value)) ∨
      ∃ after, l.handleRecvUdp answer pc = some (after, [], .returned ()) ∧
        after.running = l.running ∧
        ((l.running = true → after.receivePending = true) ∨
          ∃ value, pc = .branch (.other value)) := by
  cases pc with
  | branch ec =>
      cases ec with
      | success => exact Or.inr (Or.inl ⟨[], _, rfl, fun _ same => by cases same⟩)
      | operationAborted => exact Or.inr (Or.inl ⟨[], _, rfl, fun _ same => by cases same⟩)
      | other value => exact Or.inr (Or.inr ⟨_, rfl, rfl, Or.inr ⟨value, rfl⟩⟩)
  | available =>
      cases throws : answer.throws with
      | true => exact Or.inl (by simp [UdpListener.handleRecvUdp, throws])
      | false =>
          exact Or.inr (Or.inl ⟨[], .receive, by simp [UdpListener.handleRecvUdp, throws],
            fun _ same => by cases same⟩)
  | receive =>
      by_cases good : answer.errorCode = .success
      · exact Or.inr (Or.inl ⟨[], .post answer.data,
          by simp only [UdpListener.handleRecvUdp, if_pos good], fun _ same => by cases same⟩)
      · exact Or.inr (Or.inl ⟨[], .rearm,
          by simp only [UdpListener.handleRecvUdp, if_neg good], fun _ same => by cases same⟩)
  | post buf => exact Or.inr (Or.inl ⟨[buf], _, rfl, fun _ same => by cases same⟩)
  | rearm =>
      refine Or.inr (Or.inr ⟨_, rfl, ?_, Or.inl fun running => ?_⟩)
      · split <;> rfl
      · rw [if_pos running]
        rfl

/-- `handle_recv_udp` goes on, or it leaves a receive pending, or somebody was told. -/
theorem Receiving.handle (receiving : Receiving s) {pc : RecvPc} (here : s.loop = .handling pc)
    (answer : SocketAnswer) : Receiving (s.handle pc answer) := by
  have alive := receiving.alive (by simp [here])
  rcases handleRecvUdp_cases s.listener answer pc with
    threw | ⟨buffers, next, went, calm⟩ | ⟨after, returned, running, behind⟩
  · simp only [ClientRun.handle, threw]
    exact ⟨receiving.offline, receiving.alive, receiving.fresh, receiving.armed, receiving.failed⟩
  · simp only [ClientRun.handle, went]
    refine ⟨receiving.offline, fun _ => alive, receiving.fresh, fun needed => ?_, ?_⟩
    · exact ⟨(receiving.armed needed).1, Or.inr (Or.inl ⟨next, rfl⟩)⟩
    · intro value failing
      exact absurd (IoLoop.handling.inj failing) (calm value)
  · simp only [ClientRun.handle, returned]
    refine ⟨receiving.offline, fun _ => alive, ?_, fun needed => ?_,
      fun _ failing => by cases failing⟩
    · exact fun unstarted => running.trans (receiving.fresh unstarted)
    · obtain ⟨listening, -⟩ := receiving.armed needed
      refine ⟨running.trans listening, ?_⟩
      rcases behind with rearmed | ⟨value, entered⟩
      · exact Or.inl (rearmed listening)
      · exact Or.inr (Or.inr (receiving.failed value (entered ▸ here)))

theorem Receiving.runPosted (receiving : Receiving s) (waiting : s.loop = .waiting)
    (ec : ErrorCode) (first : Posted) : Receiving (s.runPosted files ec first) := by
  obtain ⟨offline, alive, fresh, armed, failed⟩ := receiving
  cases first with
  | received buf =>
      simp only [ClientRun.runPosted]
      split
      · exact ⟨offline, alive, fresh, armed, failed⟩
      · exact ⟨offline, alive, fresh, armed, failed⟩
  | outgoing message =>
      simp only [ClientRun.runPosted]
      split
      · exact ⟨offline, alive, fresh, armed, failed⟩
      · refine ⟨offline, alive, fresh, fun needed => ?_, fun value failing => ?_⟩
        · exact accounted (armed needed) rfl (fun handling => handling) Told.of_raised
        · exact absurd (waiting.symm.trans failing) (by simp)

/-! ## The owner -/

theorem Receiving.connectStep (receiving : Receiving s) {endpoint : Endpoint} {pc : ConnectPc}
    (here : s.call = .connecting endpoint pc) (succeeds : Bool) :
    Receiving (s.connectStep endpoint pc succeeds) := by
  have offline := offline_connectStep succeeds here receiving.offline
  -- before the thread is started there is none
  have absent (running : s.client.running = false) (unset : pc ≠ .setRunning) :
      s.loop = .absent := by
    refine receiving.absent running ?_ (by rw [here]; rfl)
    intro other same
    exact unset (Call.connecting.inj (here.symm.trans same)).2
  have running (off : (Call.connecting endpoint pc).offline = true) : s.client.running = false :=
    receiving.offline (by rw [here]; exact off)
  have fresh (unstarted : (Call.connecting endpoint pc).unstarted = true) :
      s.listener.running = false := receiving.fresh (by rw [here]; exact unstarted)
  cases pc with
  | guard =>
      cases online : s.client.running with
      | false =>
          simp only [ClientRun.connectStep, UdpRadioClient.connectStep, connectAround, online]
          exact .of_absent_begun online (absent online (by decide)) rfl rfl
      | true =>
          simp only [ClientRun.connectStep, UdpRadioClient.connectStep, connectAround, online]
          refine receiving.turn (fun off => absurd off (by simp [online])) ⟨rfl, rfl, rfl⟩ ?_
          rintro (stopping | ⟨-, raised⟩)
          · rw [here] at stopping
            cases stopping
          · exact Or.inr ⟨rfl, raised⟩
  | resolve =>
      have down := absent (running rfl) (by decide)
      cases succeeds with
      | false => exact .of_absent_begun (running rfl) down rfl rfl
      | true => exact .of_absent_begun (running rfl) down rfl rfl
  | createIo => exact .of_absent_begun (running rfl) (absent (running rfl) (by decide)) rfl rfl
  | createStrand => exact .of_absent_begun (running rfl) (absent (running rfl) (by decide)) rfl rfl
  | resetListener => exact .of_absent_begun (running rfl) (absent (running rfl) (by decide)) rfl rfl
  | createListener =>
      have down := absent (running rfl) (by decide)
      cases succeeds with
      | false => exact .of_absent_begun (running rfl) down rfl rfl
      | true => exact .of_absent (running rfl) down rfl fun _ => rfl
  | createSocket =>
      have down := absent (running rfl) (by decide)
      cases succeeds with
      | false => exact .of_absent_begun (running rfl) down rfl rfl
      | true => exact .of_absent (running rfl) down rfl fun _ => fresh rfl
  | createWork =>
      exact .of_absent (running rfl) (absent (running rfl) (by decide)) rfl fun _ => fresh rfl
  | startListener =>
      have down := absent (running rfl) (by decide)
      have started : s.listener.start.running = true ∧ s.listener.start.receivePending = true := by
        rw [UdpListener.start, fresh rfl]
        exact ⟨rfl, rfl⟩
      refine ⟨offline, fun present => absurd down present, fun unstarted => ?_,
        fun _ => ⟨started.1, Or.inl started.2⟩, fun value failing => ?_⟩
      · cases unstarted
      · exact absurd (down.symm.trans failing) (by simp)
  | startThread =>
      have down := absent (running rfl) (by decide)
      cases succeeds with
      | false => exact .of_absent_begun (running rfl) down rfl rfl
      | true =>
          obtain ⟨listening, pending | ⟨pc, handling⟩ | told⟩ :=
            receiving.armed (Or.inr (by rw [here]; rfl))
          · refine ⟨offline, fun _ => Or.inr (Or.inl ⟨endpoint, rfl⟩), fun unstarted => ?_,
              fun _ => ⟨listening, Or.inl pending⟩, fun value failing => ?_⟩
            · cases unstarted
            · cases failing
          · exact absurd (down.symm.trans handling) (by simp)
          · exact absurd told (not_told_of_establishing (by rw [here]; rfl))
  | setRunning =>
      have untold : ¬ s.Told := not_told_of_establishing (by rw [here]; rfl)
      refine ⟨offline, fun _ => Or.inl rfl, fun unstarted => ?_, fun _ => ?_,
        fun value failing => ?_⟩
      · cases unstarted
      · have launching : s.call.launching = true := by
          rw [here]
          rfl
        exact accounted (receiving.armed (Or.inr launching)) rfl (fun handling => handling)
          fun told => absurd told untold
      · exact absurd (receiving.failed value failing) untold
  | signal | leave =>
      have untold : ¬ s.Told := not_told_of_establishing (by rw [here]; rfl)
      refine ⟨offline, fun present => ?_, fun unstarted => ?_, fun needed => ?_,
        fun value failing => ?_⟩
      · rcases receiving.alive present with online | ⟨other, same⟩ | stopping
        · exact Or.inl online
        · exact absurd (here.symm.trans same) (by simp)
        · rw [here] at stopping
          cases stopping
      · cases unstarted
      · have online : s.client.running = true := by
          rcases needed with online | launching
          · exact online
          · cases launching
        exact accounted (receiving.armed (Or.inl online)) rfl (fun handling => handling)
          fun told => absurd told untold
      · exact absurd (receiving.failed value failing) untold

/-- A call of `close`, from its owner or from the destructor. -/
def ClosesAt (s : ClientRun) (pc : ClosePc) (onward : ClosePc → Call) (behind : Call) : Prop :=
  (s.call = .closing pc ∧ onward = .closing ∧ behind = .idle) ∨
    (s.call = .destroying pc ∧ onward = .destroying ∧ behind = .releasing .udpListener)

/-- Until it has joined the thread `close` is stopping, and behind the join there is none. -/
theorem Receiving.closeStep (receiving : Receiving s) {pc : ClosePc} {onward : ClosePc → Call}
    {behind : Call} (closes : s.ClosesAt pc onward behind) (joins : s.Joins pc) :
    Receiving (s.closeStep pc onward behind) := by
  have shape : s.call.offline = (Call.closing pc).offline ∧
      s.call.stopping = (Call.closing pc).stopping ∧
      ∀ endpoint, s.call ≠ .connecting endpoint .setRunning := by
    rcases closes with ⟨here, -, -⟩ | ⟨here, -, -⟩
    · exact ⟨by rw [here], by rw [here], by simp [here]⟩
    · exact ⟨by rw [here]; rfl, by rw [here]; cases pc <;> rfl, by simp [here]⟩
  obtain ⟨offline, stops, unset⟩ := shape
  have running (off : (Call.closing pc).offline = true) : s.client.running = false :=
    receiving.offline (offline.trans off)
  have absent (idle : s.client.running = false) (calm : (Call.closing pc).stopping = false) :
      s.loop = .absent := receiving.absent idle unset (stops.trans calm)
  cases pc with
  | check =>
      cases online : s.client.running with
      | false =>
          simp only [ClientRun.closeStep, UdpRadioClient.closeStep, closeAround, online]
          have down := absent online rfl
          rcases closes with ⟨-, rfl, rfl⟩ | ⟨-, rfl, rfl⟩
          all_goals exact .of_absent_begun online down rfl rfl
      | true =>
          simp only [ClientRun.closeStep, UdpRadioClient.closeStep, closeAround, online]
          have busy : s.client.running = false → s.loop = .absent := by simp [online]
          rcases closes with ⟨-, rfl, rfl⟩ | ⟨-, rfl, rfl⟩
          all_goals
            refine receiving.turn busy ⟨rfl, rfl, rfl⟩ ?_
            rintro (stopping | ⟨-, raised⟩)
            · exact absurd (stops.symm.trans stopping) (by decide)
            · exact Or.inr ⟨rfl, raised⟩
  | unsetRunning =>
      rcases closes with ⟨-, rfl, rfl⟩ | ⟨-, rfl, rfl⟩
      all_goals
        refine ⟨fun _ => rfl, fun _ => Or.inr (Or.inr rfl), ?_, ?_, fun _ _ => Or.inl rfl⟩
        · rintro ⟨⟩
        · rintro (⟨⟨⟩⟩ | ⟨⟨⟩⟩)
  | resetWork | stopIo =>
      have off := running rfl
      have idle : ¬ s.client.running = true := by simp [off]
      rcases closes with ⟨-, rfl, rfl⟩ | ⟨-, rfl, rfl⟩
      all_goals
        refine ⟨fun _ => off, fun _ => Or.inr (Or.inr rfl), ?_, ?_, fun _ _ => Or.inl rfl⟩
        · rintro ⟨⟩
        · rintro (online | launching)
          · exact absurd online idle
          · cases launching
  | joinThread =>
      have off := running rfl
      have down := joins rfl
      rcases closes with ⟨-, rfl, rfl⟩ | ⟨-, rfl, rfl⟩
      all_goals exact .of_absent_begun off down rfl rfl
  | stopListener | resetSocket | signal =>
      have off := running rfl
      have down := absent off rfl
      rcases closes with ⟨-, rfl, rfl⟩ | ⟨-, rfl, rfl⟩
      all_goals exact .of_absent_begun off down rfl rfl

/-- A step in which nobody is deaf keeps the receive path armed. -/
theorem Receiving.step {a : Action} (receiving : Receiving s) (hears : s.Hears a)
    (does : Does files s a t) : Receiving t := by
  -- the owner starts a call, or `connect` throws
  have turned {call : Call} (idle : s.call.stopping = false)
      (unset : ∀ endpoint, s.call ≠ .connecting endpoint .setRunning)
      (settled : call.offline = false ∧ call.unstarted = false ∧ call.launching = false)
      (quiet : call.establishing = false) : Receiving { s with call := call } := by
    refine receiving.turn (fun running => receiving.absent running unset idle) settled ?_
    rintro (stopping | ⟨-, raised⟩)
    · exact absurd (idle.symm.trans stopping) (by decide)
    · exact Or.inr ⟨quiet, raised⟩
  cases does with
  | connect endpoint idle =>
      exact turned (by rw [idle]; rfl) (by simp [idle]) ⟨rfl, rfl, rfl⟩ rfl
  | close idle | destroy idle =>
      exact turned (by rw [idle]; rfl) (by simp [idle]) ⟨rfl, rfl, rfl⟩ rfl
  | @throws endpoint pc here may =>
      refine turned (by rw [here]; rfl) ?_ ⟨rfl, rfl, rfl⟩ rfl
      intro other same
      rw [(Call.connecting.inj (here.symm.trans same)).2] at may
      cases may
  | connecting succeeds here => exact receiving.connectStep here succeeds
  | closing succeeds here joins =>
      exact receiving.closeStep (Or.inl ⟨here, rfl, rfl⟩) joins
  | destroying succeeds here joins =>
      exact receiving.closeStep (Or.inr ⟨here, rfl, rfl⟩) joins
  | @releasing member succeeds here =>
      have running : s.client.running = false := receiving.offline (by rw [here]; rfl)
      have down := receiving.absent running (by simp [here]) (by rw [here]; rfl)
      cases member <;> exact .of_absent_begun running down rfl rfl
  | send message accepted handlers =>
      exact ⟨receiving.offline, receiving.alive, receiving.fresh, receiving.armed,
        receiving.failed⟩
  | completion ec waiting =>
      refine ⟨receiving.offline, fun _ => receiving.alive (by simp [waiting]), receiving.fresh,
        fun needed => ⟨(receiving.armed needed).1, Or.inr (Or.inl ⟨_, rfl⟩)⟩, ?_⟩
      intro value failing
      cases failing
      exact hears
  | handle answer here => exact receiving.handle here answer
  | @runPosted first rest ec waiting posted =>
      have popped : Receiving { s with posted := rest } :=
        ⟨receiving.offline, receiving.alive, receiving.fresh, receiving.armed, receiving.failed⟩
      exact popped.runPosted waiting ec first
  | runReturns waiting =>
      refine ⟨receiving.offline, fun present => absurd rfl present, receiving.fresh, ?_,
        fun _ failing => by cases failing⟩
      intro needed
      exact accounted (receiving.armed needed) rfl
        (fun handling => absurd handling (not_handling_of_waiting waiting)) (fun told => told)
  | runFails ec waiting =>
      refine ⟨receiving.offline, fun present => absurd rfl present, receiving.fresh, ?_,
        fun _ failing => by cases failing⟩
      intro needed
      exact accounted (receiving.armed needed) rfl
        (fun handling => absurd handling (not_handling_of_waiting waiting)) Told.of_raised

/-! ## Runs -/

/-- **The receive path stays armed.**  As long as no receive completes with an error other than
`operation_aborted`, unless the client is being closed or has raised `onError` since it was
connected, a connected client that has raised nothing has a receive pending or handles one. -/
theorem armed_of_reachable (reached : (system files).ReachableUnder Hears s) : Armed s := by
  have receiving : Receiving s := by
    refine reached.invariant ?_ fun _ _ _ receiving hears taken =>
      receiving.step hears (step_does taken)
    rintro first rfl
    exact .of_absent_begun rfl rfl rfl rfl
  exact receiving.isArmed

/-- Connect, and receive a datagram of one byte. -/
def oneDatagram : List Action :=
  [.connect ⟨"127.0.0.1", 1516, 5398⟩] ++ List.replicate 13 (Action.step true) ++
    [.completion .success] ++ List.replicate 5 (Action.handle { data := [0] })

theorem oneDatagram_armed :
    ((system fun _ => .unreadable).runUnder Hears {} oneDatagram).isSome = true ∧
      Armed (((system fun _ => .unreadable).runUnder Hears {} oneDatagram).getD {}) := by
  have succeeds : ((system fun _ => .unreadable).runUnder Hears {} oneDatagram).isSome = true := by
    decide +kernel
  exact ⟨succeeds, armed_of_reachable
    (System.reachableUnder_getD (.start rfl) succeeds {})⟩

/-- Connect, and let the receive complete with an error. -/
def failedReceive : List Action :=
  [.connect ⟨"127.0.0.1", 1516, 5398⟩] ++ List.replicate 13 (Action.step true) ++
    [.completion (.other 111), .handle {}]

/-- The client is connected and has raised nothing, and no receive is left. -/
theorem failedReceive_deaf :
    ∃ s, (system fun _ => .unreadable).Reachable s ∧ s.client.running = true ∧ s.call = .idle ∧
      s.listener.onError = [.other 111] ∧ ¬ Armed s := by
  have succeeds : ((system fun _ => .unreadable).run {} failedReceive).isSome = true := by
    decide +kernel
  refine ⟨_, System.reachable_getD (.start rfl) succeeds {}, by decide +kernel, by decide +kernel,
    by decide +kernel, fun armed => ?_⟩
  rcases armed (by decide +kernel) (by decide +kernel) with pending | ⟨pc, handling⟩
  · exact absurd pending (by decide +kernel)
  · have waiting : (((system fun _ => .unreadable).run {} failedReceive).getD {}).loop =
        .waiting := by decide +kernel
    exact absurd (waiting.symm.trans handling) (by simp)

end ClientRun

end V2xRosDriver.Udp
