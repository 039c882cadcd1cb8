/-
# Mqtt.Listening -- payloads in, messages out

The loop thread of a handle calls back with a CONNACK, a disconnect or a message, one at a time and
whenever it likes between the steps of the client's owner.  `handleMessage` drops an empty payload
and gives every other to `process` on that thread, which takes a while: the client may be told
of its file meanwhile, and the thread of another handle may call back.  The loop stop of
`close` waits for the callback of its handle to end.  That of a `connect` that failed cancels
the thread, which leaves a scan where it stands.

Whatever else happens to the client, and whichever of its handles a payload comes from, the client
raises what a receiver raises that hears these payloads, those of one handle in the order of
its callbacks (`payloads_in_order`).

The callbacks hold a bare pointer to the client.  If `connect` and `close` keep their order,
no handle calls back any more once `close` has returned (`quiet_after_close`), so that the
object may go.
-/
import V2xRosDriver.Mqtt.ConnectedFlag
import V2xRosDriver.Radio.Scanning
import V2xRosDriver.Theory.Channel

namespace V2xRosDriver.Mqtt

set_option autoImplicit false

open V2xRosDriver.Theory.Channel
open V2xRosDriver.Theory.Transition
open V2xRosDriver.Radio

/-- A client run with the payloads its handles were called back with, the scans they are in, and
what the client has heard.  A fault that leaves `process` leaves the callback, and the process
ends with it. -/
structure Listening extends MqttRun where
  handed : List (Nat × List UInt8) := []
  scanning : Nat → Option Scan := fun _ => none
  heard : List Hearing := []
  aborted : Bool := false

namespace Listening

/-- A step of the run, the owner's `set_wave_file_path`, a message callback of a handle, and the
handle's thread at its next step of `process`. -/
inductive Action where
  | run (a : MqttRun.Action)
  | tell
  | message (handle : Nat) (payload : List UInt8)
  | scan (handle : Nat)

/-- The loop thread of the handle is inside `process`. -/
def Scans (s : Listening) (h : Nat) : Prop :=
  (s.client.session.handles h).looping = true ∧ (s.scanning h).isSome = true

instance (s : Listening) (h : Nat) : Decidable (s.Scans h) := inferInstanceAs (Decidable (_ ∧ _))

/-- The step has to wait for a scan: another callback of the handle does, and the loop stop of
`close`. -/
def waits (s : Listening) : MqttRun.Action → Bool
  | .connack h _ _ | .dropped h => decide (s.Scans h)
  | .closeStep => decide (s.closeAt = some .loopStop) &&
      s.client.session.mosq.any fun h => decide (s.Scans h)
  | .connect _ | .connectStep _ | .close | .send _ _ => false

/-- What is left of a handle's scan; without anything left its payload has been heard. -/
def left (s : Listening) (h : Nat) (scan : Option Scan) (hearing : Hearing) : Listening :=
  { s with
    scanning := Function.update s.scanning h scan
    heard := if scan.isSome then s.heard else s.heard ++ [hearing] }

def step (files : WaveFiles) (path : String) (s : Listening) (a : Action) : Option Listening :=
  if s.aborted then none
  else
    match a with
    | .run a =>
        if s.waits a then none
        else
          match s.toMqttRun.step a with
          | some next => some { s with toMqttRun := next }
          | none => none
    | .tell =>
        some { s with
          client :=
            { s.client with
              toBaseRadioClient := (exec (setWaveFilePath path) s.client.toBaseRadioClient).2 }
          scanning := fun h => (s.scanning h).map (Scan.tell (.told ∈ s.heard))
          heard := s.heard ++ [.told] }
    | .message h payload =>
        if (s.client.session.handles h).looping = true ∧ s.scanning h = none then
          if payload.isEmpty then some s
          else
            some { s.left h (Scan.begin? h payload) (.datagram h payload 0) with
              handed := s.handed ++ [(h, payload)] }
        else none
    | .scan h =>
        match s.scanning h with
        | none => none
        | some scan =>
            if (s.client.session.handles h).looping then
              let stepped := scan.step files s.client.toBaseRadioClient
              some { s.left h (Scan.onward stepped.1) scan.hearing with
                client := { s.client with toBaseRadioClient := stepped.2 }
                aborted := stepped.1.toBool.not }
            else none

/-- A client as `createRadioClient` leaves it, with any configuration, told of one wave file at any
time. -/
def system (files : WaveFiles) (path : String) : System Listening Action where
  start s := ∃ client : MqttRadioClient,
    client.session = {} ∧ client.toBaseRadioClient = {} ∧ s = { client := client }
  step := step files path

/-! ## The steps of a run -/

section Quiet

variable {s t : MqttRun}

theorem quiet_handleConnect (c : MqttRadioClient) (rc : Int) (accepted : Bool) :
    Quiet c.toBaseRadioClient (c.handleConnect rc accepted).toBaseRadioClient := by
  unfold MqttRadioClient.handleConnect MqttRadioClient.subscribeToTopics
  split
  · cases accepted <;> exact ⟨rfl, rfl, rfl, rfl⟩
  · exact .refl _

theorem quiet_closeStep (c : MqttRadioClient) (pc : ClosePc) :
    Quiet c.toBaseRadioClient (c.closeStep pc).1.toBaseRadioClient := by
  cases pc <;> exact ⟨rfl, rfl, rfl, rfl⟩

/-- Connecting, closing and the callbacks around a session touch neither. -/
theorem quiet_of_step {a : MqttRun.Action} (taken : s.step a = some t) :
    Quiet s.client.toBaseRadioClient t.client.toBaseRadioClient := by
  cases a with
  | connect endpoint =>
      simp only [MqttRun.step] at taken
      split at taken <;> cases taken
      exact .refl _
  | connectStep succeeds =>
      simp only [MqttRun.step] at taken
      split at taken
      · cases taken
      · split at taken <;> cases taken
        exact .refl _
  | close =>
      simp only [MqttRun.step] at taken
      split at taken <;> cases taken
      exact .refl _
  | closeStep =>
      simp only [MqttRun.step] at taken
      split at taken
      · cases taken
      · rename_i pc _
        split at taken <;> cases taken
        exact quiet_closeStep s.client pc
  | connack h rc accepted =>
      simp only [MqttRun.step, Option.ite_none_right_eq_some, Option.some.injEq] at taken
      obtain ⟨-, rfl⟩ := taken
      exact quiet_handleConnect s.client rc accepted
  | dropped h =>
      simp only [MqttRun.step, Option.ite_none_right_eq_some, Option.some.injEq] at taken
      obtain ⟨-, rfl⟩ := taken
      exact .refl _
  | send message accepted =>
      cases taken
      exact .refl _

end Quiet

/-! ## Payloads in -/

section Payloads

variable {files : WaveFiles} {path : String} {s t : Listening}

/-- A handle is in a scan, or was when its thread was cancelled. -/
def UnderWay (s : Listening) (scan : Scan) : Prop := ∃ h, s.scanning h = some scan

/-- The payload of a handle's scan. -/
def inHand (s : Listening) (h : Nat) : List (List UInt8) := (s.scanning h).toList.map (·.data)

/-- The client stands for a receiver that has heard what the client has, and of every handle that is
what it was handed but for the payload in hand. -/
structure Kept (files : WaveFiles) (path : String) (s : Listening) : Prop where
  listens : Listens files path s.heard s.UnderWay s.client.toBaseRadioClient
  sources : ∀ h scan, s.scanning h = some scan → scan.source = h
  handed : ∀ h, during h (s.heard.filterMap Hearing.datagram?) ++ s.inHand h = during h s.handed

theorem kept_start {client : MqttRadioClient} (base : client.toBaseRadioClient = {}) :
    Kept files path { client := client } where
  listens := by
    rw [base]
    exact (listens_start files path).fewer fun _ ⟨_, is⟩ => by cases is
  sources _ _ is := by cases is
  handed _ := rfl

/-- What runs beside the messages. -/
theorem Kept.run (kept : Kept files path s) {next : MqttRun}
    (quiet : Quiet s.client.toBaseRadioClient next.client.toBaseRadioClient) :
    Kept files path { s with toMqttRun := next } :=
  ⟨kept.listens.quiet quiet, kept.sources, kept.handed⟩

/-- The owner tells the client of its file, in the middle of scans or not. -/
theorem Kept.tell (kept : Kept files path s) :
    Kept files path
      { s with
        client :=
          { s.client with
            toBaseRadioClient := (exec (setWaveFilePath path) s.client.toBaseRadioClient).2 }
        scanning := fun h => (s.scanning h).map (Scan.tell (.told ∈ s.heard))
        heard := s.heard ++ [.told] } where
  listens := by
    refine kept.listens.tell ?_
    rintro scan ⟨h, is⟩
    obtain ⟨before, was, rfl⟩ := Option.map_eq_some_iff.mp is
    exact ⟨before, ⟨h, was⟩, rfl⟩
  sources h scan is := by
    obtain ⟨before, was, rfl⟩ := Option.map_eq_some_iff.mp is
    rw [source_tell]
    exact kept.sources h before was
  handed h := by
    have same : ((s.scanning h).map (Scan.tell (.told ∈ s.heard))).toList.map (·.data) =
        s.inHand h := by
      rw [inHand]
      cases s.scanning h with
      | none => rfl
      | some scan =>
          simp only [Option.map_some, Option.toList_some, List.map_singleton, Scan.tell]
          split <;> rfl
    have alike : (s.heard ++ [Hearing.told]).filterMap Hearing.datagram? =
        s.heard.filterMap Hearing.datagram? :=
      (List.filterMap_append ..).trans (List.append_nil _)
    rw [inHand, same, alike]
    exact kept.handed h

theorem left_scanning (s : Listening) (h : Nat) (scan : Option Scan) (hearing : Hearing) (k : Nat) :
    (s.left h scan hearing).scanning k = if k = h then scan else s.scanning k := by
  show Function.update s.scanning h scan k = _
  by_cases same : k = h
  · subst same
    rw [Function.update_self, if_pos rfl]
  · rw [Function.update_of_ne same, if_neg same]

/-- A handle whose thread moves leaves the scans of the others alone. -/
theorem Kept.others (kept : Kept files path s) {h : Nat} {scan : Option Scan} {other : Scan}
    (is : t.UnderWay other)
    (moved : ∀ k, t.scanning k = if k = h then scan else s.scanning k) :
    s.UnderWay other ∧ other.source ≠ h ∨ scan = some other := by
  obtain ⟨k, is⟩ := is
  rw [moved] at is
  split at is
  · exact .inr is
  · rename_i apart
    exact .inl ⟨⟨k, is⟩, (kept.sources k other is).trans_ne apart⟩

theorem Kept.sources_left (kept : Kept files path s) {h : Nat} {scan : Option Scan}
    (hearing : Hearing) (source : ∀ next, scan = some next → next.source = h) :
    ∀ k other, (s.left h scan hearing).scanning k = some other → other.source = k := by
  intro k other is
  rw [left_scanning] at is
  split at is
  · rename_i here
    exact (source other is).trans here.symm
  · exact kept.sources k other is

/-- What was heard of each handle and what is in hand, behind a step of one of them. -/
theorem handed_left (s : Listening) (h : Nat) (scan : Option Scan) {missed : Nat}
    {data : List UInt8} (same : ∀ next, scan = some next → next.data = data) (k : Nat) :
    during k ((s.left h scan (.datagram h data missed)).heard.filterMap Hearing.datagram?) ++
        (s.left h scan (.datagram h data missed)).inHand k =
      during k (s.heard.filterMap Hearing.datagram?) ++
        if k = h then [data] else s.inHand k := by
  by_cases here : k = h
  · subst here
    cases scan with
    | none => simp [left, inHand, Hearing.datagram?, during]
    | some next => simp [left, inHand, same next rfl]
  · have other : during k [(h, data)] = [] := during_stamp_of_ne (Ne.symm here) [data]
    cases scan with
    | none => simp [left, inHand, here, Hearing.datagram?, other]
    | some next => simp [left, inHand, here]

/-- A handle is called back with a payload. -/
theorem Kept.message (kept : Kept files path s) {h : Nat} (free : s.scanning h = none)
    (payload : List UInt8) :
    Kept files path
      { s.left h (Scan.begin? h payload) (.datagram h payload 0) with
        handed := s.handed ++ [(h, payload)] } := by
  refine ⟨?_, kept.sources_left (.datagram h payload 0) fun next begins =>
    (Scan.of_begin begins).1, fun k => ?_⟩
  · have apart (other : Scan) (was : s.UnderWay other) : other.source ≠ h := by
      obtain ⟨k, was⟩ := was
      rintro rfl
      rw [kept.sources k other was, was] at free
      cases free
    cases begins : Scan.begin? h payload with
    | none =>
        refine (kept.listens.passes begins).fewer fun other is => ?_
        rcases kept.others is (left_scanning s h _ (.datagram h payload 0)) with ⟨was, -⟩ | new
        · exact was
        · cases new
    | some scan =>
        refine kept.listens.begins begins apart fun other is => ?_
        rcases kept.others is (left_scanning s h _ (.datagram h payload 0)) with ⟨was, -⟩ | new
        · exact .inl was
        · exact .inr (Option.some.inj new).symm
  · refine (handed_left s h _ (fun next begins => (Scan.of_begin begins).2.1) k).trans ?_
    rw [during_append, ← kept.handed k]
    by_cases here : k = h
    · subst here
      simp [inHand, free, during]
    · rw [if_neg here, show during k [(h, payload)] = [] from
        during_stamp_of_ne (Ne.symm here) [payload], List.append_nil]

/-- The thread of a handle makes a step of its scan. -/
theorem Kept.scan (kept : Kept files path s) {h : Nat} {scan : Scan}
    (at_ : s.scanning h = some scan) {result : Except Fault (Option Scan)}
    {after : BaseRadioClient}
    (ran : scan.step files s.client.toBaseRadioClient = (result, after)) (aborted : Bool) :
    Kept files path
      { s.left h (Scan.onward result) scan.hearing with
        client := { s.client with toBaseRadioClient := after }
        aborted := aborted } := by
  have source := kept.sources h scan at_
  have next_ (next : Scan) (onward : Scan.onward result = some next) :
      next.source = h ∧ next.data = scan.data := by
    obtain ⟨pc, -, rfl⟩ := Scan.onward_of_step ran onward
    exact ⟨source, rfl⟩
  refine ⟨?_, kept.sources_left scan.hearing fun next onward => (next_ next onward).1, fun k => ?_⟩
  · cases onward : Scan.onward result with
    | none =>
        refine kept.listens.ends ⟨h, at_⟩ ran onward fun other is => ?_
        rcases kept.others is (left_scanning s h _ scan.hearing) with ⟨was, apart⟩ | new
        · exact ⟨was, source ▸ apart⟩
        · cases new
    | some next =>
        refine kept.listens.goes ⟨h, at_⟩ ran onward fun other is => ?_
        rcases kept.others is (left_scanning s h _ scan.hearing) with ⟨was, apart⟩ | new
        · exact .inl ⟨was, source ▸ apart⟩
        · exact .inr (Option.some.inj new).symm
  · have heard : scan.hearing = .datagram h scan.data scan.missed := by rw [Scan.hearing, source]
    rw [heard]
    refine (handed_left s h _ (fun next onward => (next_ next onward).2) k).trans ?_
    show _ = during k s.handed
    rw [← kept.handed k]
    by_cases here : k = h
    · subst here
      simp [inHand, at_]
    · rw [if_neg here]

theorem Kept.step (kept : Kept files path s) {a : Action}
    (taken : s.step files path a = some t) : Kept files path t := by
  simp only [Listening.step, Option.ite_none_left_eq_some] at taken
  obtain ⟨-, taken⟩ := taken
  cases a with
  | run a =>
      simp only [Option.ite_none_left_eq_some] at taken
      obtain ⟨-, taken⟩ := taken
      split at taken
      · rename_i next moved
        cases taken
        exact kept.run (quiet_of_step moved)
      · cases taken
  | tell =>
      cases taken
      exact kept.tell
  | message h payload =>
      simp only [Option.ite_none_right_eq_some] at taken
      obtain ⟨⟨-, free⟩, taken⟩ := taken
      split at taken <;> cases taken
      · exact kept
      · exact kept.message free payload
  | scan h =>
      simp only at taken
      split at taken
      · cases taken
      · rename_i scan at_
        simp only [Option.ite_none_right_eq_some, Option.some.injEq] at taken
        exact taken.2 ▸ kept.scan at_ rfl _

/-- The payloads of every handle are heard in the order of its callbacks, none twice, each when its
scan is over, and the client raises what a receiver raises that hears them.  Of one handle it
hears all but one whole. -/
structure InOrder (files : WaveFiles) (path : String) (s : Listening) : Prop where
  handed : ∀ h, during h (s.heard.filterMap Hearing.datagram?) ++ s.inHand h = during h s.handed
  raised : s.client.onMessageReceived = (Receiver.listen (tableAt files path) s.heard).raised
  inPart : (s.heard.filterMap Hearing.inPart?).Nodup

end Payloads

/-! ## After `close` -/

section Lowered

/-- The run as its loop threads see it, whatever flag and CONNACKs say. -/
def lowered (s : MqttRun) : MqttRun :=
  { s with
    client := { s.client with session := { s.client.session with connected := false } }
    online := fun _ => false }

variable {s t : MqttRun}

theorem onHandle_lowered (s : MqttSession) (call : Mosquitto → Mosquitto) :
    ({ s with connected := false } : MqttSession).onHandle call =
      { s.onHandle call with connected := false } := by
  rcases s with ⟨_ | h, _, _, _, _, _⟩ <;> rfl

/-- Behind its guard `connect` does not look at the flag, -/
theorem connectStep_lowered (endpoint : Endpoint) (s : MqttSession) {pc : ConnectPc}
    (guarded : pc = .guard → s.connected = false) (succeeds : Bool) :
    Mqtt.connectStep endpoint { s with connected := false } pc succeeds =
      ({ (Mqtt.connectStep endpoint s pc succeeds).1 with connected := false },
        (Mqtt.connectStep endpoint s pc succeeds).2) := by
  cases pc with
  | guard => simp [Mqtt.connectStep, guarded rfl]
  | create =>
      simp only [Mqtt.connectStep, MqttSession.mosquittoNew]
      cases succeeds <;> rfl
  | loopStart =>
      simp only [Mqtt.connectStep, MqttSession.loopStart, onHandle_lowered]
      split <;> rfl
  | initiate =>
      simp only [Mqtt.connectStep, MqttSession.initiate, onHandle_lowered]
      split <;> rfl
  | leave | abortClear => rfl
  | abortLoopStop => simp only [Mqtt.connectStep, MqttSession.loopStop, onHandle_lowered]
  | abortDestroy => simp only [Mqtt.connectStep, MqttSession.destroy, onHandle_lowered]

/-- and `close` never does. -/
theorem closeStep_lowered (s : MqttSession) (pc : ClosePc) :
    Mqtt.closeStep { s with connected := false } pc =
      ({ (Mqtt.closeStep s pc).1 with connected := false }, (Mqtt.closeStep s pc).2) := by
  cases pc with
  | check =>
      simp only [Mqtt.closeStep]
      split <;> rfl
  | loopStop => simp only [Mqtt.closeStep, MqttSession.loopStop, onHandle_lowered]
  | destroy => simp only [Mqtt.closeStep, MqttSession.destroy, onHandle_lowered]
  | unsetConnected | disconnect | clear | signal => rfl

/-- No handle is waited for in a lowered run. -/
theorem awaitsDisconnect_lowered (s : MqttRun) : (lowered s).awaitsDisconnect = false := by
  unfold MqttRun.awaitsDisconnect
  split <;> rfl

theorem advance_lowered (s : MqttRun) (endpoint : Endpoint) {pc : ConnectPc}
    (guarded : pc = .guard → s.client.session.connected = false) (succeeds : Bool) :
    (lowered s).advance endpoint pc succeeds = lowered (s.advance endpoint pc succeeds) := by
  simp only [MqttRun.advance, MqttRadioClient.connectStep, lowered,
    connectStep_lowered endpoint s.client.session guarded succeeds]

/-- A `connect` that passes its guard, -/
theorem lowered_connect {endpoint : Endpoint} (down : s.client.session.connected = false)
    (taken : s.step (.connect endpoint) = some t) :
    (lowered s).step (.connect endpoint) = some (lowered t) := by
  have away : s.connectAt = none := by
    by_contra busy
    obtain ⟨call, busy⟩ := Option.ne_none_iff_exists'.mp busy
    simp only [MqttRun.step, busy] at taken
    cases taken
  simp only [MqttRun.step, away, Option.some.injEq] at taken
  subst taken
  simp only [MqttRun.step, show (lowered s).connectAt = none from away,
    advance_lowered s endpoint (fun _ => down) true]
  rfl

/-- the steps behind it, -/
theorem lowered_connectStep {succeeds : Bool}
    (begun : ∀ endpoint, s.connectAt ≠ some (endpoint, .guard))
    (taken : s.step (.connectStep succeeds) = some t) :
    (lowered s).step (.connectStep succeeds) = some (lowered t) := by
  cases here : s.connectAt with
  | none =>
      simp only [MqttRun.step, here] at taken
      cases taken
  | some call =>
      obtain ⟨endpoint, pc⟩ := call
      simp only [MqttRun.step, here, Option.ite_none_left_eq_some, Option.some.injEq] at taken
      obtain ⟨-, rfl⟩ := taken
      have guarded : pc = .guard → s.client.session.connected = false := by
        rintro rfl
        exact absurd here (begun endpoint)
      simp only [MqttRun.step, show (lowered s).connectAt = some (endpoint, pc) from here,
        awaitsDisconnect_lowered, Bool.false_eq_true, and_false, if_false,
        advance_lowered s endpoint guarded succeeds]

/-- and those of `close` are steps of the lowered run. -/
theorem lowered_closeStep (taken : s.step .closeStep = some t) :
    (lowered s).step .closeStep = some (lowered t) := by
  cases here : s.closeAt with
  | none =>
      simp only [MqttRun.step, here] at taken
      cases taken
  | some pc =>
      simp only [MqttRun.step, here, Option.ite_none_left_eq_some, Option.some.injEq] at taken
      obtain ⟨-, rfl⟩ := taken
      simp only [MqttRun.step, show (lowered s).closeAt = some pc from here,
        awaitsDisconnect_lowered, Bool.false_eq_true, and_false, if_false]
      simp only [lowered, MqttRadioClient.closeStep, closeStep_lowered]

end Lowered

section Closed

variable {files : WaveFiles} {path : String} {s t : Listening}

/-- The order the driver would have to keep: a `connect` that finds the client not connected
also finds it without a handle and no `close` running, and `close` waits until `connect` has let
go of the handle. -/
def Sequenced (s : Listening) : Action → Prop
  | .run (.connect _) => s.client.session.connected = false →
      s.client.session.mosq = none ∧ s.closeAt = none
  | .run .close => ConnectPc.done (s.connectAt.map (·.2)) = true
  | _ => True

instance (s : Listening) : (a : Action) → Decidable (s.Sequenced a)
  | .run (.connect _) => inferInstanceAs (Decidable (_ → _ ∧ _))
  | .run .close => inferInstanceAs (Decidable (_ = _))
  | .run (.connectStep _) | .run .closeStep | .run (.connack _ _ _) | .run (.dropped _)
  | .run (.send _ _) | .tell | .message _ _ | .scan _ => inferInstanceAs (Decidable True)

/-- The loop thread of a handle calls back, or is inside a callback. -/
def Action.callsBack : Action → Bool
  | .run (.connack _ _ _) | .run (.dropped _) | .message _ _ | .scan _ => true
  | _ => false

/-- The handles are in good order, whatever the flag says. -/
structure Settled (s : MqttRun) : Prop where
  kept : (lowered s).Kept
  begun : ∀ endpoint, s.connectAt ≠ some (endpoint, .guard)

theorem connectStep_onward (endpoint : Endpoint) (session : MqttSession) (pc : ConnectPc)
    (succeeds : Bool) :
    (Mqtt.connectStep endpoint session pc succeeds).2.pc? ≠ some .guard := by
  cases pc with
  | leave | abortLoopStop | abortDestroy | abortClear => exact fun same => by cases same
  | guard | create | loopStart | initiate =>
      simp only [Mqtt.connectStep]
      split <;> exact fun same => by cases same

theorem advance_begun (s : MqttRun) (endpoint : Endpoint) (pc : ConnectPc) (succeeds : Bool)
    (other : Endpoint) : (s.advance endpoint pc succeeds).connectAt ≠ some (other, .guard) := by
  intro at_
  have onward := connectStep_onward endpoint s.client.session pc succeeds
  obtain ⟨next, goes, same⟩ := Option.map_eq_some_iff.mp at_
  cases same
  exact onward goes

theorem Settled.connect {s t : MqttRun} (settled : Settled s) {endpoint : Endpoint}
    (allowed : s.client.session.connected = false →
      s.client.session.mosq = none ∧ s.closeAt = none)
    (taken : s.step (.connect endpoint) = some t) : Settled t := by
  have moves := taken
  simp only [MqttRun.step] at moves
  split at moves
  · cases moves
  · rename_i away
    cases moves
    refine ⟨?_, fun other => advance_begun s endpoint .guard true other⟩
    cases connected : s.client.session.connected with
    | false =>
        exact settled.kept.connect (fun _ => allowed connected) (lowered_connect connected taken)
    | true =>
        -- the guard refuses
        have refused : s.advance endpoint .guard true = { s with connectAt := none } := by
          simp only [MqttRun.advance, MqttRadioClient.connectStep, Mqtt.connectStep, connected,
            if_true]
          rfl
        have session := settled.kept.session
        rw [show (lowered s).connectAt = none from away] at session
        rw [refused]
        exact ⟨session, fun closed => by cases closed⟩

/-- A CONNACK changes nothing but the flag and the filters. -/
theorem Settled.connack {s : MqttRun} (settled : Settled s) (h : Nat) (rc : Int)
    (accepted : Bool) :
    Settled { s with
      client := s.client.handleConnect rc accepted
      online := Function.update s.online h (rc = 0) } := by
  refine ⟨?_, settled.begun⟩
  by_cases success : rc = 0
  · subst success
    cases accepted with
    | false => exact ⟨settled.kept.session, settled.kept.closed⟩
    | true =>
        let subscribes (handle : Mosquitto) : Mosquitto :=
          { handle with filters := handle.filters ++ [s.client.buildSubscribeTopic] }
        have subscribed := onHandle_lowered { s.client.session with connected := true } subscribes
        refine ⟨?_, fun closed => ?_⟩
        · show FlagKept { ({ s.client.session with connected := true } : MqttSession).onHandle
            subscribes with connected := false } _ _ _
          rw [← subscribed]
          apply settled.kept.session.onHandle_mild
          · exact fun _ => rfl
          · exact fun _ => rfl
        · obtain ⟨cleared, done⟩ := settled.kept.closed closed
          refine ⟨?_, done⟩
          exact (onHandle_mosq _ _).trans cleared
  · have unchanged : s.client.handleConnect rc accepted = s.client := if_neg success
    rw [unchanged]
    exact settled.kept

/-- A disconnect lowers the flag. -/
theorem Settled.dropped {s : MqttRun} (settled : Settled s) (h : Nat) :
    Settled { s with
      client := s.client.handleDisconnect
      online := Function.update s.online h false } :=
  ⟨⟨settled.kept.session, settled.kept.closed⟩, settled.begun⟩

/-- Every step of the run keeps the handles in good order, -/
theorem Settled.run {next : MqttRun} (settled : Settled s.toMqttRun) {a : MqttRun.Action}
    (allowed : s.Sequenced (.run a)) (taken : s.toMqttRun.step a = some next) :
    Settled next := by
  cases a with
  | connect endpoint => exact settled.connect allowed taken
  | connectStep succeeds =>
      have kept := settled.kept.connectStep (lowered_connectStep settled.begun taken)
      refine ⟨kept, ?_⟩
      simp only [MqttRun.step] at taken
      split at taken
      · cases taken
      · split at taken <;> cases taken
        exact advance_begun s.toMqttRun _ _ succeeds
  | close =>
      simp only [MqttRun.step] at taken
      split at taken
      · cases taken
      · rename_i away
        cases taken
        have lowered_ : (lowered s.toMqttRun).step .close =
            some (lowered { s.toMqttRun with closeAt := some .check }) := by
          simp only [MqttRun.step, show (lowered s.toMqttRun).closeAt = none from away]
          rfl
        exact ⟨settled.kept.close allowed lowered_, settled.begun⟩
  | closeStep =>
      have kept := settled.kept.closeStep (lowered_closeStep taken)
      refine ⟨kept, ?_⟩
      simp only [MqttRun.step] at taken
      split at taken
      · cases taken
      · split at taken <;> cases taken
        exact settled.begun
  | connack h rc accepted =>
      simp only [MqttRun.step, Option.ite_none_right_eq_some, Option.some.injEq] at taken
      exact taken.2 ▸ settled.connack h rc accepted
  | dropped h =>
      simp only [MqttRun.step, Option.ite_none_right_eq_some, Option.some.injEq] at taken
      exact taken.2 ▸ settled.dropped h
  | send message accepted =>
      cases taken
      exact settled

/-- and so does what happens beside it. -/
theorem Settled.step (settled : Settled s.toMqttRun) {a : Action} (allowed : s.Sequenced a)
    (taken : s.step files path a = some t) : Settled t.toMqttRun := by
  simp only [Listening.step, Option.ite_none_left_eq_some] at taken
  obtain ⟨-, taken⟩ := taken
  cases a with
  | run a =>
      simp only [Option.ite_none_left_eq_some] at taken
      obtain ⟨-, taken⟩ := taken
      split at taken
      · rename_i next moved
        cases taken
        exact settled.run allowed moved
      · cases taken
  | tell =>
      cases taken
      exact ⟨⟨settled.kept.session, settled.kept.closed⟩, settled.begun⟩
  | message h payload =>
      simp only [Option.ite_none_right_eq_some] at taken
      obtain ⟨-, taken⟩ := taken
      split at taken <;> cases taken <;> exact settled
  | scan h =>
      simp only at taken
      split at taken
      · cases taken
      · simp only [Option.ite_none_right_eq_some, Option.some.injEq] at taken
        obtain ⟨-, rfl⟩ := taken
        exact ⟨⟨settled.kept.session, settled.kept.closed⟩, settled.begun⟩

theorem settled_of_reachable (reached : (system files path).ReachableUnder Sequenced s) :
    Settled s.toMqttRun := by
  suffices settled : (fun state : Listening => Settled state.toMqttRun) s from settled
  refine reached.invariant ?_ fun _ _ _ settled allowed taken =>
    Settled.step settled allowed taken
  rintro s ⟨client, session, -, rfl⟩
  refine ⟨⟨?_, fun closed => by cases closed⟩, fun _ at_ => by cases at_⟩
  show FlagKept { client.session with connected := false } none none fun _ => false
  rw [session]
  exact FlagKept.fresh

/-- **No callback after `close`.**  When `connect` and `close` keep their order, from the return of
`close` on until the next `connect` no handle of the client can call back, and none is inside
a callback. -/
theorem quiet_after_close (reached : (system files path).ReachableUnder Sequenced s)
    (closed : s.closed = true) : ∀ a : Action, a.callsBack = true → s.step files path a = none := by
  have settled := settled_of_reachable reached
  have halted (h : Nat) : ¬ (s.client.session.handles h).looping = true := by
    intro runs
    have points := settled.kept.session.current runs
    rw [(settled.kept.closed closed).1] at points
    cases points
  intro a calls
  simp only [Listening.step, ite_eq_left_iff]
  intro _
  cases a with
  | run a =>
      cases a with
      | connack h rc accepted | dropped h =>
          simp only [MqttRun.step, if_neg (halted h), ite_self]
      | _ => cases calls
  | tell => cases calls
  | message h payload => exact if_neg fun runs => halted h runs.1
  | scan h =>
      simp only
      split
      · rfl
      · exact if_neg (halted h)

/-- The client is told of its file, connects, is acknowledged, and gets a BSM. -/
def oneMessage : List Action :=
  let acknowledged : List Action :=
    [.run (.connack 0 0 true), .message 0 [0x00, 0x14, 0x01, 0x07]]
  .tell :: MqttRun.connecting.map .run ++ acknowledged

/-- The client is disconnected and closed behind its message; the loop stop waits for the scan. -/
def closedBehind : List Action :=
  let closes : List Action :=
    [.run .close, .run .closeStep, .run .closeStep, .run .closeStep, .scan 0, .scan 0, .scan 0,
      .run (.dropped 0), .run .closeStep, .run .closeStep, .run .closeStep, .run .closeStep]
  oneMessage ++ closes

def closedClient : Listening :=
  ((system shippedFiles "share/v2x_ros_driver/etc/wave.json").runUnder Sequenced
    { client := {} } closedBehind).getD { client := {} }

theorem closedClient_quiet :
    closedClient.closed = true ∧ ∀ a : Action, a.callsBack = true →
      closedClient.step shippedFiles "share/v2x_ros_driver/etc/wave.json" a = none := by
  have start : (system shippedFiles "share/v2x_ros_driver/etc/wave.json").start
      { client := {} } := ⟨{}, rfl, rfl, rfl⟩
  have succeeds : ((system shippedFiles "share/v2x_ros_driver/etc/wave.json").runUnder Sequenced
      { client := {} } closedBehind).isSome = true := by decide +kernel
  have closed : closedClient.closed = true := by decide +kernel
  exact ⟨closed, quiet_after_close
    (System.reachableUnder_getD (.start start) succeeds { client := {} }) closed⟩

end Closed

end Listening

end V2xRosDriver.Mqtt
