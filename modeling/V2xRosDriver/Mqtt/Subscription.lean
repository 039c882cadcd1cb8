/-
# Mqtt.Subscription -- does a connected client hear anything?

libmosquitto reconnects a handle by itself, any number of times, and with `clean_session`
every session at the broker starts without a subscription: `handleConnect` has to subscribe
once more at each of them.  It raises the flag first, and of a subscription that libmosquitto
turns down it only writes a log line.  The client is then connected and receives nothing
(`refused_filter_deaf`).  A connected client is subscribed throughout a run if and only if
libmosquitto takes the subscription at every CONNACK that reports success
(`subscribed_iff_taken`).
-/
import V2xRosDriver.Mqtt.Ownership
import V2xRosDriver.Mqtt.Routing

namespace V2xRosDriver.Mqtt

set_option autoImplicit false

open V2xRosDriver.Theory.Transition
open V2xRosDriver.Radio

namespace MqttSession

/-- What the current handle's session at the broker is subscribed to. -/
def subscriptions (s : MqttSession) : List String :=
  match s.mosq with
  | none => []
  | some h => (s.handles h).filters

/-- The broker forgets the session of the current handle. -/
def forget (s : MqttSession) : MqttSession := s.onHandle fun handle => { handle with filters := [] }

@[simp] theorem subscriptions_onHandle (s : MqttSession) (call : Mosquitto → Mosquitto) {h : Nat}
    (holds : s.mosq = some h) : (s.onHandle call).subscriptions = (call (s.handles h)).filters := by
  rw [subscriptions, onHandle_mosq, holds]
  show ((s.onHandle call).handles h).filters = _
  rw [onHandle_handles, if_pos holds]

end MqttSession

/-! ## One handle and its broker -/

/-- The handle's connection to the broker. -/
inductive Link where
  | awaiting  -- CONNECT is sent, CONNACK has not come
  | refused   -- CONNACK reported a failure
  | up
  | down
  deriving DecidableEq, Repr

/-- A client whose `connect` has succeeded, and the connection of its handle. -/
structure HandleRun where
  client : MqttRadioClient
  link : Link := .awaiting

namespace HandleRun

/-- `accepted` is libmosquitto's answer to the subscription a successful CONNACK leads to. -/
inductive Action where
  | connack (rc : Int) (accepted : Bool)
  | dropped
  | reconnect

/-- The broker opens a new session and reports success, or it reports a failure. -/
def connack (s : HandleRun) (rc : Int) (accepted : Bool) : HandleRun :=
  if rc = 0 then
    { client := { s.client with session := s.client.session.forget }.handleConnect rc accepted
      link := .up }
  else { client := s.client.handleConnect rc accepted, link := .refused }

/-- The connection is lost, and with it the session. -/
def drop (s : HandleRun) : HandleRun where
  client := { s.client with session := s.client.session.forget }.handleDisconnect
  link := .down

/-- One event; the callbacks of a handle come one after another. -/
def step (s : HandleRun) : Action → Option HandleRun
  | .connack rc accepted => if s.link = .awaiting then some (s.connack rc accepted) else none
  | .dropped => if s.link = .down then none else some s.drop
  | .reconnect =>
      if s.link = .down ∨ s.link = .refused then some { s with link := .awaiting } else none

/-- `connect` has returned: there is a handle, and no session yet. -/
structure Started (s : HandleRun) : Prop where
  handle : s.client.session.mosq.isSome = true
  disconnected : s.client.session.connected = false
  awaiting : s.link = .awaiting

def system : System HandleRun Action where
  start := Started
  step := step

/-- A client that is connected is subscribed to what comes from the radio. -/
def Subscribed (s : HandleRun) : Prop :=
  s.client.session.connected = true →
    s.client.mqttTopicPrefix ++ "/ind/J2735/#" ∈ s.client.session.subscriptions

/-- libmosquitto takes the subscription, if this is a CONNACK that leads to one. -/
def Taken (_ : HandleRun) : Action → Prop
  | .connack rc accepted => rc = 0 → accepted = true
  | .dropped | .reconnect => True

/-- The flag is up exactly while there is a session, and the handle stays. -/
structure Linked (s : HandleRun) : Prop where
  handle : s.client.session.mosq.isSome = true
  flag : s.client.session.connected = true ↔ s.link = .up

section Step

variable {s t : HandleRun}

theorem connack_cases {rc : Int} {accepted : Bool}
    (taken : s.step (.connack rc accepted) = some t) :
    s.link = .awaiting ∧ t = s.connack rc accepted := by
  simpa [step, eq_comm] using taken

theorem dropped_cases (taken : s.step .dropped = some t) : s.link ≠ .down ∧ t = s.drop := by
  simpa [step, eq_comm] using taken

theorem reconnect_cases (taken : s.step .reconnect = some t) :
    (s.link = .down ∨ s.link = .refused) ∧ t = { s with link := .awaiting } := by
  simpa [step, eq_comm] using taken

theorem Started.linked (started : Started s) : Linked s where
  handle := started.handle
  flag := by
    rw [started.disconnected, started.awaiting]
    decide

theorem Linked.quiet (linked : Linked s) (other : s.link ≠ .up) :
    s.client.session.connected = false := by
  rw [Bool.eq_false_iff]
  exact fun connected => other (linked.flag.mp connected)

/-- A CONNACK that reports success: the flag goes up, and the new session holds the filter or
nothing. -/
theorem connack_success (linked : Linked s) (accepted : Bool) :
    (s.connack 0 accepted).client.session.mosq = s.client.session.mosq ∧
      (s.connack 0 accepted).client.session.connected = true ∧
      (s.connack 0 accepted).client.mqttTopicPrefix = s.client.mqttTopicPrefix ∧
      (s.connack 0 accepted).client.session.subscriptions =
        if accepted then [s.client.mqttTopicPrefix ++ "/ind/J2735/#"] else [] := by
  obtain ⟨h, holds⟩ := Option.isSome_iff_exists.mp linked.handle
  have cleared : s.client.session.forget.mosq = some h := (onHandle_mosq _ _).trans holds
  have forgotten : (s.client.session.forget.handles h).filters = [] := by
    rw [MqttSession.forget, onHandle_handles, if_pos holds]
  cases accepted with
  | true =>
      have flagged : ({ s.client.session.forget with connected := true } : MqttSession).mosq =
          some h := cleared
      have session : (s.connack 0 true).client.session =
          ({ s.client.session.forget with connected := true } : MqttSession).onHandle fun handle =>
            { handle with filters := handle.filters ++ [s.client.buildSubscribeTopic] } := rfl
      rw [session, onHandle_mosq, onHandle_connected]
      refine ⟨cleared.trans holds.symm, rfl, rfl, ?_⟩
      rw [MqttSession.subscriptions_onHandle _ _ flagged]
      show (s.client.session.forget.handles h).filters ++ _ = _
      rw [forgotten]
      rfl
  | false =>
      refine ⟨cleared.trans holds.symm, rfl, rfl, ?_⟩
      exact MqttSession.subscriptions_onHandle _ _ holds

/-- An event keeps the flag with the connection. -/
theorem Linked.step (linked : Linked s) {a : Action} (taken : s.step a = some t) : Linked t := by
  cases a with
  | connack rc accepted =>
      obtain ⟨waits, rfl⟩ := connack_cases taken
      by_cases success : rc = 0
      · subst success
        obtain ⟨mosq, connected, -⟩ := connack_success linked accepted
        refine ⟨?_, ?_⟩
        · rw [mosq]
          exact linked.handle
        · exact iff_of_true connected rfl
      · have quiet := linked.quiet (by rw [waits]; decide)
        simp only [HandleRun.connack, if_neg success, MqttRadioClient.handleConnect]
        exact ⟨linked.handle, by simp [quiet]⟩
  | dropped =>
      obtain ⟨-, rfl⟩ := dropped_cases taken
      refine ⟨?_, by simp [drop, MqttRadioClient.handleDisconnect]⟩
      show (s.client.session.forget).mosq.isSome = true
      rw [MqttSession.forget, onHandle_mosq]
      exact linked.handle
  | reconnect =>
      obtain ⟨off, rfl⟩ := reconnect_cases taken
      have quiet : s.client.session.connected = false := by
        apply linked.quiet
        rcases off with down | refused
        · rw [down]
          decide
        · rw [refused]
          decide
      exact ⟨linked.handle, by simp [quiet]⟩

/-- Whatever an event leaves, the client is subscribed then exactly if libmosquitto took what it
was asked for. -/
theorem subscribed_step_iff (linked : Linked s) {a : Action} (taken : s.step a = some t) :
    Subscribed t ↔ s.Taken a := by
  have after := linked.step taken
  cases a with
  | connack rc accepted =>
      obtain ⟨-, rfl⟩ := connack_cases taken
      by_cases success : rc = 0
      · subst success
        obtain ⟨-, connected, same, holds⟩ := connack_success linked accepted
        rw [Subscribed, same, holds]
        cases accepted <;> simp [Taken, connected]
      · refine iff_of_true (fun connected => ?_) fun zero => absurd zero success
        have link := after.flag.mp connected
        simp [HandleRun.connack, success] at link
  | dropped =>
      obtain ⟨-, rfl⟩ := dropped_cases taken
      exact iff_of_true (fun connected => by cases connected) trivial
  | reconnect =>
      obtain ⟨-, rfl⟩ := reconnect_cases taken
      exact iff_of_true (fun connected => absurd (after.flag.mp connected) (by simp)) trivial

end Step

/-- **Exactly when connected implies subscribed.**  Along a run of CONNACKs, drops and automatic
reconnects on one handle, a connected client is subscribed in every state if and only if
libmosquitto takes the subscription at every CONNACK that reports success. -/
theorem subscribed_iff_taken {s : HandleRun} (started : Started s) (actions : List Action) :
    system.Visits Subscribed s actions ↔ system.Complies Taken s actions := by
  apply System.visits_iff_complies_within
  · intro s a t linked _ taken
    exact ⟨subscribed_step_iff linked taken, fun _ => linked.step taken⟩
  · exact started.linked
  · intro connected
    rw [started.disconnected] at connected
    cases connected

/-- A client that `connect` has given a handle. -/
def ofPrefix (topicPrefix : String) : HandleRun where
  client := match ({ mqttTopicPrefix := topicPrefix, waveFilePath := "" } : Setup).connected with
    | some (client, _) => client
    | none => {}

theorem ofPrefix_started (topicPrefix : String) : Started (ofPrefix topicPrefix) :=
  ⟨rfl, rfl, rfl⟩

/-- A session, its loss, an attempt the broker turns down, and a second session. -/
def secondSession (accepted : Bool) : List Action :=
  [.connack 0 true, .dropped, .reconnect, .connack 3 true, .reconnect, .connack 0 accepted]

theorem secondSession_subscribed :
    system.Visits Subscribed (ofPrefix "Ettifos/V2X") (secondSession true) := by
  refine (subscribed_iff_taken (ofPrefix_started _) _).mpr ?_
  simp [secondSession, System.Complies, Taken]

/-- Behind a prefix that ends in a wildcard the filter is none libmosquitto takes. -/
theorem refused_filter_deaf :
    Started (ofPrefix "Ettifos/#") ∧
      (∃ s, system.run (ofPrefix "Ettifos/#") [.connack 0 false] = some s ∧
        s.client.session.connected = true ∧ s.client.session.subscriptions = []) ∧
      ¬ system.Visits Subscribed (ofPrefix "Ettifos/#") [.connack 0 false] := by
  have ran : ∃ s, system.run (ofPrefix "Ettifos/#") [.connack 0 false] = some s ∧
      s.client.session.connected = true ∧ s.client.session.subscriptions = [] :=
    ⟨_, rfl, rfl, rfl⟩
  refine ⟨ofPrefix_started _, ran, fun visits => ?_⟩
  obtain ⟨s, replayed, connected, nothing⟩ := ran
  have subscribed := visits.there replayed connected
  rw [nothing] at subscribed
  cases subscribed

end HandleRun

end V2xRosDriver.Mqtt
