/-
# Udp.ClientRun -- a UDP client, its listener and its I/O thread at work

The owner of a `UdpRadioClient` calls `connect` and `close`, one call after another, and
destroys it at last.  From `startThread` on the I/O thread runs the handlers of the
`io_service` next to these calls: `handle_recv_udp` of the listener, point by point, and
what was posted.  Other threads send.  Every interleaving of the three is a run of
`system`.

An exception that leaves a handler leaves the thread, and the process ends with it: an
aborted state has no step.  The destruction of an `io_service` is logged with the objects
built on it that the client still held.
-/
import V2xRosDriver.Udp.UdpRadioClient

namespace V2xRosDriver.Udp

set_option autoImplicit false

open V2xRosDriver.Radio
open V2xRosDriver.Theory.Transition

/-- `boost::system::error_code`. -/
inductive ErrorCode where
  | success
  | operationAborted
  | other (value : Int)
  deriving DecidableEq, Repr

/-! ## The listener -/

/-- A `UDPListener`; `receivePending` is the `async_receive` on its socket, and the last field
logs the `onError` signals.  Nothing is connected to its `onError` and its `onClose`. -/
structure UdpListener where
  running : Bool := false
  receivePending : Bool := false
  onError : List ErrorCode := []
  deriving DecidableEq, Repr

/-- Program points of `handle_recv_udp`. -/
inductive RecvPc where
  | branch (ec : ErrorCode)
  | available
  | receive
  | post (buf : List UInt8)
  | rearm
  deriving DecidableEq, Repr

/-- What the socket answers: does `available ()` throw, what error code does `receive` set,
and what does the buffer hold behind it. -/
structure SocketAnswer where
  throws : Bool := false
  errorCode : ErrorCode := .success
  data : List UInt8 := []
  deriving DecidableEq, Repr

namespace UdpListener

def startRecvUdp (l : UdpListener) : UdpListener := { l with receivePending := true }

def start (l : UdpListener) : UdpListener :=
  if l.running then l else { l with running := true }.startRecvUdp

def stop (l : UdpListener) : UdpListener := { l with running := false }

/-- One step of `handle_recv_udp` and the buffers it posts; none where an exception leaves
it. -/
def handleRecvUdp (l : UdpListener) (answer : SocketAnswer) :
    RecvPc → Option (UdpListener × List (List UInt8) × Progress RecvPc Unit)
  | .branch ec =>
      if ec = .success ∨ ec = .operationAborted then some (l, [], .goes .available)
      else some ({ l with onError := l.onError ++ [ec] }, [], .returned ())
  | .available => if answer.throws then none else some (l, [], .goes .receive)
  | .receive =>
      if answer.errorCode = .success then some (l, [], .goes (.post answer.data))
      else some (l, [], .goes .rearm)
  | .post buf => some (l, [buf], .goes .rearm)
  | .rearm => some (if l.running then l.startRecvUdp else l, [], .returned ())

end UdpListener

/-! ## The client and its threads -/

/-- A handler posted to the `io_service`: a received buffer for `onReceive`, or a message for
the output socket. -/
inductive Posted where
  | received (buf : List UInt8)
  | outgoing (message : List UInt8)
  deriving DecidableEq, Repr

/-- Where the I/O thread stands. -/
inductive IoLoop where
  | absent
  | waiting
  | handling (pc : RecvPc)
  deriving DecidableEq, Repr

/-- The members that hold something, in the order the destructor releases them. -/
inductive Member where
  | udpListener
  | udpOutSocket
  | ioThread
  | work
  | outputStrand
  | io
  deriving DecidableEq, Repr

/-- What the owner of the client is doing. -/
inductive Call where
  | idle
  | connecting (endpoint : Endpoint) (pc : ConnectPc)
  | closing (pc : ClosePc)
  | destroying (pc : ClosePc)
  | releasing (member : Member)
  | gone
  deriving DecidableEq, Repr

/-- A destroyed `io_service` and the objects built on it the client held at that moment. -/
structure Destroyed where
  generation : Nat
  held : List Member
  deriving DecidableEq, Repr

/-- The five members built on an `io_service`, with the generation each is of. -/
def UdpRadioClient.objects (c : UdpRadioClient) : List (Member × Option Nat) :=
  [ (.udpListener, c.udpListener),
    (.udpOutSocket, c.udpOutSocket),
    (.ioThread, c.ioThread),
    (.work, c.work),
    (.outputStrand, c.outputStrand) ]

/-- The objects of a generation. -/
def UdpRadioClient.held (c : UdpRadioClient) (generation : Nat) : List Member :=
  (c.objects.filter (·.2 = some generation)).map (·.1)

/-- The client, the listener it points to and the threads around them.  `onError` logs the
client's own signals since `connect` last succeeded. -/
structure ClientRun where
  client : UdpRadioClient := {}
  listener : UdpListener := {}
  loop : IoLoop := .absent
  stopped : Bool := false
  posted : List Posted := []
  onError : List ErrorCode := []
  call : Call := .idle
  destroyed : List Destroyed := []
  aborted : Bool := false

/-- The statements of `connect` that may throw, in `new` or out of what they call. -/
def ConnectPc.mayThrow : ConnectPc → Bool
  | .guard | .resetListener | .setRunning | .leave => false
  | _ => true

namespace ClientRun

/-- The log after the present `io_service` is destroyed. -/
def loseIo (s : ClientRun) : List Destroyed :=
  match s.client.io with
  | none => s.destroyed
  | some generation => s.destroyed ++ [⟨generation, s.client.held generation⟩]

/-! ### Calls of the owner -/

/-- What a step of `connect` does around the client.  A new `io_service` takes the place of
the old one, which is destroyed with all handlers in it. -/
def connectAround (s : ClientRun) (pc : ConnectPc) (succeeds : Bool) : ClientRun :=
  match pc with
  | .createIo => { s with destroyed := s.loseIo, stopped := false, posted := [] }
  | .createListener => if succeeds then { s with listener := {} } else s
  | .startListener => { s with listener := s.listener.start }
  | .startThread => if succeeds then { s with loop := .waiting } else s
  | .leave => { s with onError := [] }
  | _ => s

def connectStep (s : ClientRun) (endpoint : Endpoint) (pc : ConnectPc) (succeeds : Bool) :
    ClientRun :=
  let stepped := s.client.connectStep endpoint pc succeeds
  { s.connectAround pc succeeds with
    client := stepped.1
    call :=
      match stepped.2 with
      | .goes next => .connecting endpoint next
      | .returned _ => .idle }

/-- What a step of `close` does around the client. -/
def closeAround (s : ClientRun) (pc : ClosePc) : ClientRun :=
  match pc with
  | .stopIo => { s with stopped := true }
  | .stopListener => { s with listener := s.listener.stop }
  | _ => s

/-- One step of `close`, in a call of its own or in the destructor. -/
def closeStep (s : ClientRun) (pc : ClosePc) (onward : ClosePc → Call) (behind : Call) :
    ClientRun :=
  let stepped := s.client.closeStep pc
  { s.closeAround pc with
    client := stepped.1
    call :=
      match stepped.2 with
      | .goes next => onward next
      | .returned _ => behind }

/-- The join waits for the I/O thread. -/
def Joins (s : ClientRun) (pc : ClosePc) : Prop := pc = .joinThread → s.loop = .absent

instance (s : ClientRun) (pc : ClosePc) : Decidable (s.Joins pc) :=
  inferInstanceAs (Decidable (_ → _))

/-- The destructor releases one member after the other. -/
def release (s : ClientRun) : Member → ClientRun
  | .udpListener =>
      { s with client := { s.client with udpListener := none }, call := .releasing .udpOutSocket }
  | .udpOutSocket =>
      { s with client := { s.client with udpOutSocket := none }, call := .releasing .ioThread }
  | .ioThread => { s with client := { s.client with ioThread := none }, call := .releasing .work }
  | .work =>
      { s with client := { s.client with work := none }, call := .releasing .outputStrand }
  | .outputStrand =>
      { s with client := { s.client with outputStrand := none }, call := .releasing .io }
  | .io =>
      { s with destroyed := s.loseIo, client := { s.client with io := none }, call := .gone }

/-- The next step of the owner's call. -/
def advance (s : ClientRun) (succeeds : Bool) : Option ClientRun :=
  match s.call with
  | .idle => none
  | .connecting endpoint pc => some (s.connectStep endpoint pc succeeds)
  | .closing pc => if s.Joins pc then some (s.closeStep pc .closing .idle) else none
  | .destroying pc =>
      if s.Joins pc then some (s.closeStep pc .destroying (.releasing .udpListener)) else none
  | .releasing member => some (s.release member)
  | .gone => none

/-! ### Handlers -/

/-- One step of the handler the I/O thread is in. -/
def handle (s : ClientRun) (pc : RecvPc) (answer : SocketAnswer) : ClientRun :=
  match s.listener.handleRecvUdp answer pc with
  | none => { s with aborted := true }
  | some (listener, buffers, progress) =>
      { s with
        listener := listener
        posted := s.posted ++ buffers.map .received
        loop :=
          match progress with
          | .goes next => .handling next
          | .returned _ => .waiting }

/-- Run a posted handler.  `ec` is what `send_to` comes back with. -/
def runPosted (files : WaveFiles) (s : ClientRun) (ec : ErrorCode) : Posted → ClientRun
  | .received buf =>
      match exec (process files buf) s.client.toBaseRadioClient with
      | (.ok _, base) => { s with client := { s.client with toBaseRadioClient := base } }
      | (.error _, base) =>
          { s with client := { s.client with toBaseRadioClient := base }, aborted := true }
  | .outgoing _ => if ec = .success then s else { s with onError := s.onError ++ [ec] }

/-! ### Runs -/

inductive Action where
  | connect (endpoint : Endpoint)
  | close
  | destroy
  | step (succeeds : Bool)
  | throws
  | send (message : List UInt8) (posted : Bool)
  | completion (ec : ErrorCode)
  | handle (answer : SocketAnswer)
  | runPosted (ec : ErrorCode)
  | runReturns
  | runFails (ec : ErrorCode)
  deriving DecidableEq

/-- One step of a run.  `run` returns when the `io_service` was stopped or has nothing left to
do; an error it reports is raised. -/
def step (files : WaveFiles) (s : ClientRun) (a : Action) : Option ClientRun :=
  if s.aborted then none
  else
    match a with
    | .connect endpoint =>
        if s.call = .idle then some { s with call := .connecting endpoint .guard } else none
    | .close => if s.call = .idle then some { s with call := .closing .check } else none
    | .destroy => if s.call = .idle then some { s with call := .destroying .check } else none
    | .step succeeds => s.advance succeeds
    | .throws =>
        match s.call with
        | .connecting _ pc => if pc.mayThrow then some { s with call := .idle } else none
        | _ => none
    | .send message posted =>
        some { s with
          posted := s.posted ++ ((s.client.sendV2xMessage message posted).1.map .outgoing).toList }
    | .completion ec =>
        if s.loop = .waiting ∧ s.stopped = false ∧ s.listener.receivePending then
          some { s with
            listener := { s.listener with receivePending := false }
            loop := .handling (.branch ec) }
        else none
    | .handle answer =>
        match s.loop with
        | .handling pc => some (s.handle pc answer)
        | _ => none
    | .runPosted ec =>
        if s.loop = .waiting ∧ s.stopped = false then
          match s.posted with
          | [] => none
          | first :: rest => some ({ s with posted := rest }.runPosted files ec first)
        else none
    | .runReturns =>
        if s.loop = .waiting ∧ (s.stopped ∨
            (s.client.work = none ∧ s.posted = [] ∧ s.listener.receivePending = false)) then
          some { s with loop := .absent }
        else none
    | .runFails ec =>
        if s.loop = .waiting ∧ ec ≠ .success then
          some { s with loop := .absent, onError := s.onError ++ [ec] }
        else none

/-- A client is constructed without any of the six members. -/
def system (files : WaveFiles) : System ClientRun Action where
  start s := s = {}
  step := step files

/-! ### What a step does -/

/-- The effects of the actions, each under what enables it. -/
inductive Does (files : WaveFiles) (s : ClientRun) : Action → ClientRun → Prop
  | connect (endpoint : Endpoint) (idle : s.call = .idle) :
      Does files s (.connect endpoint) { s with call := .connecting endpoint .guard }
  | close (idle : s.call = .idle) : Does files s .close { s with call := .closing .check }
  | destroy (idle : s.call = .idle) :
      Does files s .destroy { s with call := .destroying .check }
  | connecting {endpoint : Endpoint} {pc : ConnectPc} (succeeds : Bool)
      (here : s.call = .connecting endpoint pc) :
      Does files s (.step succeeds) (s.connectStep endpoint pc succeeds)
  | closing {pc : ClosePc} (succeeds : Bool) (here : s.call = .closing pc) (joins : s.Joins pc) :
      Does files s (.step succeeds) (s.closeStep pc .closing .idle)
  | destroying {pc : ClosePc} (succeeds : Bool) (here : s.call = .destroying pc)
      (joins : s.Joins pc) :
      Does files s (.step succeeds) (s.closeStep pc .destroying (.releasing .udpListener))
  | releasing {member : Member} (succeeds : Bool) (here : s.call = .releasing member) :
      Does files s (.step succeeds) (s.release member)
  | throws {endpoint : Endpoint} {pc : ConnectPc} (here : s.call = .connecting endpoint pc)
      (may : pc.mayThrow = true) : Does files s .throws { s with call := .idle }
  | send (message : List UInt8) (accepted : Bool) (handlers : List Posted) :
      Does files s (.send message accepted) { s with posted := s.posted ++ handlers }
  | completion (ec : ErrorCode) (waiting : s.loop = .waiting) :
      Does files s (.completion ec)
        { s with
          listener := { s.listener with receivePending := false }
          loop := .handling (.branch ec) }
  | handle {pc : RecvPc} (answer : SocketAnswer) (here : s.loop = .handling pc) :
      Does files s (.handle answer) (s.handle pc answer)
  | runPosted {first : Posted} {rest : List Posted} (ec : ErrorCode)
      (waiting : s.loop = .waiting) (posted : s.posted = first :: rest) :
      Does files s (.runPosted ec) ({ s with posted := rest }.runPosted files ec first)
  | runReturns (waiting : s.loop = .waiting) : Does files s .runReturns { s with loop := .absent }
  | runFails (ec : ErrorCode) (waiting : s.loop = .waiting) :
      Does files s (.runFails ec) { s with loop := .absent, onError := s.onError ++ [ec] }

section Does

variable {files : WaveFiles} {s t : ClientRun}

theorem advance_does {succeeds : Bool} (taken : s.advance succeeds = some t) :
    Does files s (.step succeeds) t := by
  unfold advance at taken
  cases here : s.call with
  | idle => simp [here] at taken
  | gone => simp [here] at taken
  | connecting endpoint pc =>
      simp only [here, Option.some.injEq] at taken
      exact taken ▸ .connecting succeeds here
  | closing pc =>
      simp only [here, Option.ite_none_right_eq_some, Option.some.injEq] at taken
      obtain ⟨joins, rfl⟩ := taken
      exact .closing succeeds here joins
  | destroying pc =>
      simp only [here, Option.ite_none_right_eq_some, Option.some.injEq] at taken
      obtain ⟨joins, rfl⟩ := taken
      exact .destroying succeeds here joins
  | releasing member =>
      simp only [here, Option.some.injEq] at taken
      exact taken ▸ .releasing succeeds here

theorem step_does {a : Action} (taken : step files s a = some t) : Does files s a t := by
  unfold step at taken
  split at taken
  · cases taken
  · cases a with
    | connect endpoint =>
        simp only [Option.ite_none_right_eq_some, Option.some.injEq] at taken
        obtain ⟨idle, rfl⟩ := taken
        exact .connect endpoint idle
    | close =>
        simp only [Option.ite_none_right_eq_some, Option.some.injEq] at taken
        obtain ⟨idle, rfl⟩ := taken
        exact .close idle
    | destroy =>
        simp only [Option.ite_none_right_eq_some, Option.some.injEq] at taken
        obtain ⟨idle, rfl⟩ := taken
        exact .destroy idle
    | step succeeds => exact advance_does taken
    | throws =>
        simp only at taken
        split at taken
        · rename_i endpoint pc here
          simp only [Option.ite_none_right_eq_some, Option.some.injEq] at taken
          obtain ⟨may, rfl⟩ := taken
          exact .throws here may
        · cases taken
    | send message accepted =>
        simp only [Option.some.injEq] at taken
        exact taken ▸ .send message accepted _
    | completion ec =>
        simp only [Option.ite_none_right_eq_some, Option.some.injEq] at taken
        obtain ⟨⟨waiting, -, -⟩, rfl⟩ := taken
        exact .completion ec waiting
    | handle answer =>
        simp only at taken
        split at taken
        · rename_i pc here
          simp only [Option.some.injEq] at taken
          exact taken ▸ .handle answer here
        · cases taken
    | runPosted ec =>
        simp only [Option.ite_none_right_eq_some] at taken
        obtain ⟨⟨waiting, -⟩, ran⟩ := taken
        split at ran
        · cases ran
        · rename_i first rest posted
          simp only [Option.some.injEq] at ran
          exact ran ▸ .runPosted ec waiting posted
    | runReturns =>
        simp only [Option.ite_none_right_eq_some, Option.some.injEq] at taken
        obtain ⟨⟨waiting, -⟩, rfl⟩ := taken
        exact .runReturns waiting
    | runFails ec =>
        simp only [Option.ite_none_right_eq_some, Option.some.injEq] at taken
        obtain ⟨⟨waiting, -⟩, rfl⟩ := taken
        exact .runFails ec waiting

/-! ### The owner's side and the rest -/

/-- Nothing that belongs to the owner's calls has changed: the call itself, the log of the
destroyed and, the tables and signals of its base apart, the client. -/
structure Untouched (s t : ClientRun) : Prop where
  client : ∃ base, t.client = { s.client with toBaseRadioClient := base }
  call : t.call = s.call
  destroyed : t.destroyed = s.destroyed

theorem handle_untouched (s : ClientRun) (pc : RecvPc) (answer : SocketAnswer) :
    Untouched s (s.handle pc answer) := by
  unfold handle
  split
  · exact ⟨⟨_, rfl⟩, rfl, rfl⟩
  · exact ⟨⟨_, rfl⟩, rfl, rfl⟩

theorem runPosted_untouched (s : ClientRun) (ec : ErrorCode) (first : Posted) :
    Untouched s (s.runPosted files ec first) := by
  cases first with
  | received buf =>
      simp only [runPosted]
      split
      · exact ⟨⟨_, rfl⟩, rfl, rfl⟩
      · exact ⟨⟨_, rfl⟩, rfl, rfl⟩
  | outgoing message =>
      simp only [runPosted]
      split
      · exact ⟨⟨_, rfl⟩, rfl, rfl⟩
      · exact ⟨⟨_, rfl⟩, rfl, rfl⟩

/-- Actions of the owner. -/
def Action.owned : Action → Bool
  | .connect _ | .close | .destroy | .step _ | .throws => true
  | _ => false

/-- Other threads leave the owner's side alone. -/
theorem Does.untouched {a : Action} (does : Does files s a t) (foreign : a.owned = false) :
    Untouched s t := by
  cases does with
  | connect | close | destroy | connecting | closing | destroying | releasing | throws =>
      cases foreign
  | send message accepted handlers => exact ⟨⟨_, rfl⟩, rfl, rfl⟩
  | completion ec waiting => exact ⟨⟨_, rfl⟩, rfl, rfl⟩
  | handle answer here => exact handle_untouched s _ answer
  | @runPosted first rest ec waiting posted =>
      obtain ⟨client, call, destroyed⟩ :=
        @runPosted_untouched files { s with posted := rest } ec first
      exact ⟨client, call, destroyed⟩
  | runReturns waiting => exact ⟨⟨_, rfl⟩, rfl, rfl⟩
  | runFails ec waiting => exact ⟨⟨_, rfl⟩, rfl, rfl⟩

end Does

/-! ### Where the client is not running -/

end ClientRun

/-- The program points at which `running_` is false. -/
def Call.offline : Call → Bool
  | .idle => false
  | .connecting _ pc => pc ≠ .guard ∧ pc ≠ .signal ∧ pc ≠ .leave
  | .closing pc | .destroying pc => pc ≠ .check ∧ pc ≠ .unsetRunning
  | .releasing _ | .gone => true

namespace ClientRun

variable {files : WaveFiles} {s t : ClientRun}

/-- At the offline points of its calls the client is not running. -/
def Offline (s : ClientRun) : Prop := s.call.offline = true → s.client.running = false

theorem offline_connectStep {endpoint : Endpoint} {pc : ConnectPc} (succeeds : Bool)
    (here : s.call = .connecting endpoint pc) (offline : Offline s) :
    Offline (s.connectStep endpoint pc succeeds) := by
  unfold Offline at offline ⊢
  rw [here] at offline
  cases running : s.client.running with
  | false =>
      cases pc <;> cases succeeds <;>
        simp [connectStep, UdpRadioClient.connectStep, Call.offline, running]
  | true =>
      cases pc <;> cases succeeds <;>
        simp_all [connectStep, UdpRadioClient.connectStep, Call.offline]

theorem offline_closeStep {pc : ClosePc} {onward : ClosePc → Call} {behind : Call}
    (points : ∀ next, (onward next).offline = (Call.closing next).offline)
    (offline : (Call.closing pc).offline = true → s.client.running = false) :
    Offline (s.closeStep pc onward behind) := by
  unfold Offline
  cases running : s.client.running with
  | false =>
      cases pc <;> simp [closeStep, UdpRadioClient.closeStep, running]
  | true =>
      cases pc <;> simp_all [closeStep, UdpRadioClient.closeStep, Call.offline]

end ClientRun

end V2xRosDriver.Udp
