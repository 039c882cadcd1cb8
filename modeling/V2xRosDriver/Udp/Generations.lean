/-
# Udp.Generations -- what a UDP client holds when its `io_service` goes

`connect` replaces the `io_service` first and the objects built on it afterwards, and
`close` gives up two of the five only.  So a second `connect` destroys the old `io_service`
under a strand, a listener and a thread that still belong to it (`sound_iff_afresh`).  A
client that is running always has all six members, of one generation; that part holds of
every run and carries the other.
-/
import V2xRosDriver.Udp.ClientRun

namespace V2xRosDriver.Udp

set_option autoImplicit false

open V2xRosDriver.Radio
open V2xRosDriver.Theory.Transition

/-- All six members are present and of one generation. -/
def Whole (c : UdpRadioClient) : Prop :=
  c.io ≠ none ∧ c.outputStrand = c.io ∧ c.udpListener = c.io ∧ c.udpOutSocket = c.io ∧
    c.work = c.io ∧ c.ioThread = c.io

/-- The strand apart, nothing built on an `io_service` is left. -/
def Bare (c : UdpRadioClient) : Prop :=
  c.udpListener = none ∧ c.udpOutSocket = none ∧ c.ioThread = none ∧ c.work = none

namespace ClientRun

/-- No `io_service` was destroyed under an object the client still held. -/
def Undangled (s : ClientRun) : Prop := ∀ lost ∈ s.destroyed, lost.held = []

/-- Resources do not outlive their `io_service`, and a running client has all of them. -/
structure Sound (s : ClientRun) : Prop where
  undangled : s.Undangled
  whole : s.client.running = true → Whole s.client

/-- The step does not build an `io_service` for a client with an output strand. -/
def Afresh (s : ClientRun) : Action → Prop
  | .step _ =>
      ∀ endpoint, s.call = .connecting endpoint .createIo → s.client.outputStrand = none
  | _ => True

/-! ## What is built at a program point -/

/-- What a `connect` call has built on its `io_service` so far. -/
def BuiltAt (c : UdpRadioClient) : ConnectPc → Prop
  | .createStrand => c.io ≠ none
  | .resetListener | .createListener => c.io ≠ none ∧ c.outputStrand = c.io
  | .createSocket => c.io ≠ none ∧ c.outputStrand = c.io ∧ c.udpListener = c.io
  | .createWork =>
      c.io ≠ none ∧ c.outputStrand = c.io ∧ c.udpListener = c.io ∧ c.udpOutSocket = c.io
  | .startListener | .startThread =>
      c.io ≠ none ∧ c.outputStrand = c.io ∧ c.udpListener = c.io ∧ c.udpOutSocket = c.io ∧
        c.work = c.io
  | .setRunning => Whole c
  | _ => True

/-- What the destructor has released so far. -/
def ReleasedAt (c : UdpRadioClient) : Member → Prop
  | .udpListener => True
  | .udpOutSocket => c.udpListener = none
  | .ioThread => c.udpListener = none ∧ c.udpOutSocket = none
  | .work => c.udpListener = none ∧ c.udpOutSocket = none ∧ c.ioThread = none
  | .outputStrand => Bare c
  | .io => c.outputStrand = none ∧ Bare c

/-- What the program point of the owner's call says about the client. -/
def Stage (c : UdpRadioClient) : Call → Prop
  | .connecting _ pc => BuiltAt c pc
  | .releasing member => ReleasedAt c member
  | _ => True

/-- A client without a strand is bare, and a strand is of the present generation. -/
structure Built (s : ClientRun) : Prop where
  offline : Offline s
  stage : Stage s.client s.call
  bare : s.client.outputStrand = none → Bare s.client
  strand : s.client.outputStrand = none ∨ s.client.outputStrand = s.client.io

variable {files : WaveFiles} {s t : ClientRun}

theorem held_of_bare {c : UdpRadioClient} (bare : Bare c) (strand : c.outputStrand = none)
    (generation : Nat) : c.held generation = [] := by
  obtain ⟨listener, socket, thread, work⟩ := bare
  simp [UdpRadioClient.held, UdpRadioClient.objects, listener, socket, thread, work, strand]

theorem strand_mem_held {c : UdpRadioClient} {generation : Nat}
    (strand : c.outputStrand = some generation) : .outputStrand ∈ c.held generation := by
  simp [UdpRadioClient.held, UdpRadioClient.objects, strand]

/-- An `io_service` is lost without harm exactly when the client has no strand. -/
theorem loseIo_iff (built : Built s) (undangled : s.Undangled) :
    (∀ lost ∈ s.loseIo, lost.held = []) ↔ s.client.outputStrand = none := by
  unfold loseIo
  cases io : s.client.io with
  | none =>
      refine iff_of_true undangled ?_
      rcases built.strand with none | same
      · exact none
      · rw [same, io]
  | some generation =>
      simp only [List.mem_append, List.mem_singleton, or_imp, forall_and, forall_eq]
      constructor
      · intro harmless
        rcases built.strand with none | same
        · exact none
        · have held := strand_mem_held (same.trans io)
          rw [harmless.2] at held
          cases held
      · intro none
        exact ⟨undangled, held_of_bare (built.bare none) none generation⟩

/-! ## One step -/

theorem Built.of_untouched (built : Built s) (same : Untouched s t) : Built t := by
  obtain ⟨⟨base, client⟩, call, -⟩ := same
  obtain ⟨offline, stage, bare, strand⟩ := built
  refine ⟨?_, ?_, ?_, ?_⟩
  · rw [Offline, call, client]
    exact offline
  · rw [call, client]
    cases here : s.call with
    | connecting endpoint pc =>
        rw [here] at stage
        cases pc <;> exact stage
    | releasing member =>
        rw [here] at stage
        cases member <;> exact stage
    | _ => trivial
  · rw [client]
    exact bare
  · rw [client]
    exact strand

theorem Sound.of_untouched (sound : Sound s) (same : Untouched s t) : Sound t := by
  obtain ⟨⟨base, client⟩, -, destroyed⟩ := same
  refine ⟨?_, ?_⟩
  · rw [Undangled, destroyed]
    exact sound.undangled
  · rw [client]
    exact sound.whole

theorem destroyed_connectStep {pc : ConnectPc} (endpoint : Endpoint) (other : pc ≠ .createIo)
    (succeeds : Bool) : (s.connectStep endpoint pc succeeds).destroyed = s.destroyed := by
  cases pc
  case createIo => exact absurd rfl other
  all_goals cases succeeds <;> rfl

/-- Where the strand is of the present generation, the rest need not be. -/
theorem Built.of_strand (offline : Offline t) (stage : Stage t.client t.call)
    (present : t.client.io ≠ none) (strand : t.client.outputStrand = t.client.io) : Built t :=
  ⟨offline, stage, fun none => absurd (strand.symm.trans none) present, Or.inr strand⟩

/-- Past `createIo` a `connect` call builds on the `io_service` it made. -/
theorem Built.connectStep (built : Built s) (whole : s.client.running = true → Whole s.client)
    {endpoint : Endpoint} {pc : ConnectPc} (here : s.call = .connecting endpoint pc)
    (other : pc ≠ .createIo) (succeeds : Bool) :
    Built (s.connectStep endpoint pc succeeds) ∧
      ((s.connectStep endpoint pc succeeds).client.running = true →
        Whole (s.connectStep endpoint pc succeeds).client) := by
  have offline := offline_connectStep succeeds here built.offline
  obtain ⟨quiet, stage, bare, strand⟩ := built
  rw [here] at stage
  rw [Offline, here] at quiet
  have idle (off : (Call.connecting endpoint pc).offline = true) : s.client.running ≠ true := by
    simp [quiet off]
  cases pc with
  | createIo => exact absurd rfl other
  | guard =>
      cases running : s.client.running with
      | false =>
          simp only [ClientRun.connectStep, UdpRadioClient.connectStep, running] at offline ⊢
          exact ⟨⟨offline, trivial, bare, strand⟩, fun online => by simp [running] at online⟩
      | true =>
          simp only [ClientRun.connectStep, UdpRadioClient.connectStep, running] at offline ⊢
          exact ⟨⟨offline, trivial, bare, strand⟩, fun _ => whole running⟩
  | resolve =>
      cases succeeds with
      | false => exact ⟨⟨offline, trivial, bare, strand⟩, fun online => absurd online (idle rfl)⟩
      | true => exact ⟨⟨offline, trivial, bare, strand⟩, fun online => absurd online (idle rfl)⟩
  | createStrand =>
      exact ⟨.of_strand offline ⟨stage, rfl⟩ stage rfl, fun online => absurd online (idle rfl)⟩
  | resetListener =>
      obtain ⟨present, same⟩ := stage
      exact ⟨.of_strand offline ⟨present, same⟩ present same,
        fun online => absurd online (idle rfl)⟩
  | createListener =>
      obtain ⟨present, same⟩ := stage
      cases succeeds with
      | false =>
          exact ⟨.of_strand offline trivial present same, fun online => absurd online (idle rfl)⟩
      | true =>
          exact ⟨.of_strand offline ⟨present, same, rfl⟩ present same,
            fun online => absurd online (idle rfl)⟩
  | createSocket =>
      obtain ⟨present, same, listener⟩ := stage
      cases succeeds with
      | false =>
          exact ⟨.of_strand offline trivial present same, fun online => absurd online (idle rfl)⟩
      | true =>
          exact ⟨.of_strand offline ⟨present, same, listener, rfl⟩ present same,
            fun online => absurd online (idle rfl)⟩
  | createWork =>
      obtain ⟨present, same, listener, socket⟩ := stage
      exact ⟨.of_strand offline ⟨present, same, listener, socket, rfl⟩ present same,
        fun online => absurd online (idle rfl)⟩
  | startListener =>
      obtain ⟨present, same, built⟩ := stage
      exact ⟨.of_strand offline ⟨present, same, built⟩ present same,
        fun online => absurd online (idle rfl)⟩
  | startThread =>
      obtain ⟨present, same, listener, socket, work⟩ := stage
      cases succeeds with
      | false =>
          exact ⟨.of_strand offline trivial present same, fun online => absurd online (idle rfl)⟩
      | true =>
          exact ⟨.of_strand offline ⟨present, same, listener, socket, work, rfl⟩ present same,
            fun online => absurd online (idle rfl)⟩
  | setRunning => exact ⟨⟨offline, trivial, bare, strand⟩, fun _ => stage⟩
  | signal | leave => exact ⟨⟨offline, trivial, bare, strand⟩, whole⟩

/-- `createIo` does no harm exactly to a client without a strand. -/
theorem Built.createIo (built : Built s) (sound : Sound s) {endpoint : Endpoint}
    (here : s.call = .connecting endpoint .createIo) (succeeds : Bool) :
    (Sound (s.connectStep endpoint .createIo succeeds) ↔ s.client.outputStrand = none) ∧
      (s.client.outputStrand = none → Built (s.connectStep endpoint .createIo succeeds)) := by
  have running : s.client.running = false := built.offline (by rw [here]; rfl)
  constructor
  · rw [← loseIo_iff built sound.undangled]
    constructor
    · exact fun kept => kept.undangled
    · exact fun harmless => ⟨harmless, fun online => absurd (running.symm.trans online) (by decide)⟩
  · intro none
    exact ⟨fun _ => running, Option.some_ne_none _, fun _ => built.bare none, Or.inl none⟩

/-- `close` leaves the strand and the `io_service` where they are. -/
theorem Built.closeStep (built : Built s) (sound : Sound s) {pc : ClosePc}
    {onward : ClosePc → Call} {behind : Call}
    (points : ∀ next, (onward next).offline = (Call.closing next).offline)
    (here : s.call.offline = (Call.closing pc).offline)
    (onwardStage : ∀ c next, Stage c (onward next)) (behindStage : ∀ c, Stage c behind) :
    Sound (s.closeStep pc onward behind) ∧ Built (s.closeStep pc onward behind) := by
  have offline : Offline (s.closeStep pc onward behind) :=
    offline_closeStep points fun off => built.offline (by rw [here]; exact off)
  have idle (off : (Call.closing pc).offline = true) : s.client.running ≠ true := by
    simp [built.offline (here.trans off)]
  obtain ⟨-, -, bare, strand⟩ := built
  obtain ⟨undangled, whole⟩ := sound
  cases pc with
  | check =>
      cases running : s.client.running with
      | false =>
          simp only [ClientRun.closeStep, UdpRadioClient.closeStep, running] at offline ⊢
          exact ⟨⟨undangled, fun online => by simp [running] at online⟩,
            ⟨offline, behindStage _, bare, strand⟩⟩
      | true =>
          simp only [ClientRun.closeStep, UdpRadioClient.closeStep, running] at offline ⊢
          exact ⟨⟨undangled, fun _ => whole running⟩, ⟨offline, onwardStage _ _, bare, strand⟩⟩
  | unsetRunning =>
      exact ⟨⟨undangled, fun online => by cases online⟩, ⟨offline, onwardStage _ _, bare, strand⟩⟩
  | resetWork =>
      refine ⟨⟨undangled, fun online => absurd online (idle rfl)⟩,
        ⟨offline, onwardStage _ _, fun none => ?_, strand⟩⟩
      obtain ⟨listener, socket, thread, -⟩ := bare none
      exact ⟨listener, socket, thread, rfl⟩
  | resetSocket =>
      refine ⟨⟨undangled, fun online => absurd online (idle rfl)⟩,
        ⟨offline, onwardStage _ _, fun none => ?_, strand⟩⟩
      obtain ⟨listener, -, thread, work⟩ := bare none
      exact ⟨listener, rfl, thread, work⟩
  | stopIo | joinThread | stopListener =>
      exact ⟨⟨undangled, fun online => absurd online (idle rfl)⟩,
        ⟨offline, onwardStage _ _, bare, strand⟩⟩
  | signal =>
      exact ⟨⟨undangled, fun online => absurd online (idle rfl)⟩,
        ⟨offline, behindStage _, bare, strand⟩⟩

/-- The destructor releases the strand behind the other four, and the `io_service` last. -/
theorem Built.release (built : Built s) (sound : Sound s) {member : Member}
    (here : s.call = .releasing member) :
    Sound (s.release member) ∧ Built (s.release member) := by
  have running : s.client.running = false := built.offline (by rw [here]; rfl)
  have idle : s.client.running ≠ true := by simp [running]
  have harmless := loseIo_iff built sound.undangled
  obtain ⟨-, stage, bare, strand⟩ := built
  rw [here] at stage
  cases member with
  | udpListener =>
      refine ⟨⟨sound.undangled, fun online => absurd online idle⟩,
        ⟨fun _ => running, rfl, fun none => ?_, strand⟩⟩
      exact ⟨rfl, (bare none).2⟩
  | udpOutSocket =>
      refine ⟨⟨sound.undangled, fun online => absurd online idle⟩,
        ⟨fun _ => running, ⟨stage, rfl⟩, fun none => ?_, strand⟩⟩
      exact ⟨(bare none).1, rfl, (bare none).2.2⟩
  | ioThread =>
      obtain ⟨listener, socket⟩ := stage
      refine ⟨⟨sound.undangled, fun online => absurd online idle⟩,
        ⟨fun _ => running, ⟨listener, socket, rfl⟩, fun none => ?_, strand⟩⟩
      exact ⟨listener, socket, rfl, (bare none).2.2.2⟩
  | work =>
      obtain ⟨listener, socket, thread⟩ := stage
      exact ⟨⟨sound.undangled, fun online => absurd online idle⟩,
        ⟨fun _ => running, ⟨listener, socket, thread, rfl⟩,
          fun _ => ⟨listener, socket, thread, rfl⟩, strand⟩⟩
  | outputStrand =>
      exact ⟨⟨sound.undangled, fun online => absurd online idle⟩,
        ⟨fun _ => running, ⟨rfl, stage⟩, fun _ => stage, Or.inl rfl⟩⟩
  | io =>
      obtain ⟨none, released⟩ := stage
      exact ⟨⟨harmless.mpr none, fun online => absurd online idle⟩,
        ⟨fun _ => running, trivial, fun _ => released, Or.inl none⟩⟩

/-- A step keeps the client sound exactly when it does not build an `io_service` under a
strand. -/
theorem Built.step {a : Action} (built : Built s) (sound : Sound s) (does : Does files s a t) :
    (Sound t ↔ s.Afresh a) ∧ (Sound t → Built t) := by
  cases owned : a.owned with
  | false =>
      have same := does.untouched owned
      have free : s.Afresh a := by cases a <;> trivial
      exact ⟨iff_of_true (sound.of_untouched same) free, fun _ => built.of_untouched same⟩
  | true =>
      cases does with
      | connect | close | destroy =>
          exact ⟨iff_of_true ⟨sound.undangled, sound.whole⟩ trivial,
            fun _ => ⟨by simp [Offline, Call.offline], trivial, built.bare, built.strand⟩⟩
      | throws here may =>
          exact ⟨iff_of_true ⟨sound.undangled, sound.whole⟩ trivial,
            fun _ => ⟨by simp [Offline, Call.offline], trivial, built.bare, built.strand⟩⟩
      | @connecting endpoint pc succeeds here =>
          by_cases making : pc = .createIo
          · subst making
            obtain ⟨harmless, kept⟩ := built.createIo sound here succeeds
            have afresh : s.Afresh (.step succeeds) ↔ s.client.outputStrand = none :=
              ⟨fun afresh => afresh endpoint here, fun none _ _ => none⟩
            rw [afresh]
            exact ⟨harmless, fun after => kept (harmless.mp after)⟩
          · obtain ⟨kept, whole⟩ := built.connectStep sound.whole here making succeeds
            refine ⟨iff_of_true ⟨?_, whole⟩ ?_, fun _ => kept⟩
            · rw [Undangled, destroyed_connectStep endpoint making]
              exact sound.undangled
            · intro _ other
              rw [here, Call.connecting.injEq] at other
              exact absurd other.2 making
      | @closing pc succeeds here joins =>
          obtain ⟨after, kept⟩ : Sound (s.closeStep pc .closing .idle) ∧
              Built (s.closeStep pc .closing .idle) :=
            built.closeStep sound (fun _ => rfl) (by rw [here]) (fun _ _ => trivial)
              (fun _ => trivial)
          exact ⟨iff_of_true after (by simp [Afresh, here]), fun _ => kept⟩
      | @destroying pc succeeds here joins =>
          obtain ⟨after, kept⟩ : Sound (s.closeStep pc .destroying (.releasing .udpListener)) ∧
              Built (s.closeStep pc .destroying (.releasing .udpListener)) :=
            built.closeStep sound (fun _ => rfl) (by rw [here]; rfl) (fun _ _ => trivial)
              (fun _ => trivial)
          exact ⟨iff_of_true after (by simp [Afresh, here]), fun _ => kept⟩
      | @releasing member succeeds here =>
          obtain ⟨after, kept⟩ := built.release sound here
          exact ⟨iff_of_true after (by simp [Afresh, here]), fun _ => kept⟩
      | send | completion | handle | runPosted | runReturns | runFails => cases owned

/-! ## Runs -/

/-- **Exactly when resources do not outlive their `io_service`.**  Every state of a run is
sound if and only if no `connect` of the run makes an `io_service` for a client that has an
output strand, which every client has from its first `connect` to get that far. -/
theorem sound_iff_afresh (files : WaveFiles) (actions : List Action) :
    (system files).Visits Sound {} actions ↔ (system files).Complies Afresh {} actions := by
  have built : Built {} :=
    ⟨fun off => absurd off (by decide), trivial, fun _ => ⟨rfl, rfl, rfl, rfl⟩, Or.inl rfl⟩
  have sound : Sound {} := ⟨fun _ lost => by simp at lost, fun online => by simp at online⟩
  exact System.visits_iff_complies_within
    (fun _ _ _ built sound taken => built.step sound (step_does taken)) built sound actions

/-- Connect, close and connect again, as far as the second `io_service`. -/
def connectCloseConnect : List Action :=
  [.connect ⟨"127.0.0.1", 1516, 5398⟩] ++ List.replicate 13 (Action.step true) ++
    [.close] ++ List.replicate 4 (Action.step true) ++ [.runReturns] ++
    List.replicate 4 (Action.step true) ++
    [.connect ⟨"127.0.0.1", 1516, 5398⟩] ++ List.replicate 3 (Action.step true)

/-- The second `connect` destroys the first `io_service` while the client still holds its
listener, its thread and its strand. -/
theorem second_connect_dangles :
    ((system fun _ => .unreadable).run {} connectCloseConnect).map (·.destroyed) =
        some [⟨0, [.udpListener, .ioThread, .outputStrand]⟩] ∧
      ¬ (system fun _ => .unreadable).Visits Sound {} connectCloseConnect := by
  have lost : ((system fun _ => .unreadable).run {} connectCloseConnect).map (·.destroyed) =
      some [⟨0, [.udpListener, .ioThread, .outputStrand]⟩] := by decide +kernel
  refine ⟨lost, fun visits => ?_⟩
  obtain ⟨t, ran, destroyed⟩ := Option.map_eq_some_iff.mp lost
  have harmless := (visits.there ran).undangled
  rw [Undangled, destroyed] at harmless
  exact absurd (harmless _ (List.mem_singleton_self _)) (by decide)

end ClientRun

end V2xRosDriver.Udp
