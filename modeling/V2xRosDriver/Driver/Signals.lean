/-
# Driver.Signals -- do the connection signals tell the truth?

Both transports are driven through the same operations: `connect`, which may fail at any
stage, and `close`; an MQTT client is also called back by libmosquitto, with CONNACKs and
disconnects, the automatic reconnects among them.  UDP changes its flag and raises the
signal that belongs to it in the same call, so its signals are always faithful.  MQTT
changes the flag in its callbacks: a broker drop clears it and raises nothing, every
CONNACK raises `onConnect`, and `close` raises `onDisconnect` for a handle that never got
one.  `signals_faithful_iff` says which runs stay faithful.
-/
import V2xRosDriver.Radio.ConnectionContract
import V2xRosDriver.Mqtt.Ownership
import V2xRosDriver.Udp.UdpRadioClient

namespace V2xRosDriver.Driver

set_option autoImplicit false

open V2xRosDriver.Theory.Transition
open V2xRosDriver.Radio
open V2xRosDriver.Mqtt (MqttRadioClient MqttSession onHandle_connected)
open V2xRosDriver.Udp (UdpRadioClient)

/-- A client of either transport, between two operations. -/
inductive Transport where
  | udp (c : UdpRadioClient)
  | mqtt (c : MqttRadioClient)

/-- One operation on a client.  `connect` carries the answers of the calls below it, the last
two are callbacks of a handle. -/
inductive Operation where
  | connect (endpoint : Endpoint) (answers : List Bool)
  | close
  | connack (handle : Nat) (rc : Int) (accepted : Bool)
  | dropped (handle : Nat)

namespace Transport

/-- `connected ()`. -/
def connected : Transport → Bool
  | .udp c => c.running
  | .mqtt c => c.session.connected

/-- The signals raised so far. -/
def connectionSignals : Transport → List ConnectionSignal
  | .udp c => c.connectionSignals
  | .mqtt c => c.connectionSignals

/-- A `close` call of the UDP client, from its first step to its last. -/
def closeUdp (c : UdpRadioClient) : Option (UdpRadioClient × Unit) :=
  runCall (fun c pc (_ : Unit) => c.closeStep pc) c .check (List.replicate 8 ())

/-- A `close` call of the MQTT client. -/
def closeMqtt (c : MqttRadioClient) : Option (MqttRadioClient × Unit) :=
  runCall (fun c pc (_ : Unit) => c.closeStep pc) c .check (List.replicate 7 ())

/-- Carry out one operation. -/
def perform : Transport → Operation → Option Transport
  | .udp c, .connect endpoint answers =>
      (runCall (UdpRadioClient.connectStep endpoint) c .guard answers).map (.udp ·.1)
  | .udp c, .close => (closeUdp c).map (.udp ·.1)
  | .mqtt c, .connect endpoint answers =>
      (runCall (MqttRadioClient.connectStep endpoint) c .guard answers).map (.mqtt ·.1)
  | .mqtt c, .close => (closeMqtt c).map (.mqtt ·.1)
  | .mqtt c, .connack h rc accepted =>
      if c.session.CanCallBack h then some (.mqtt (c.handleConnect rc accepted)) else none
  | .mqtt c, .dropped h =>
      if c.session.CanCallBack h then some (.mqtt c.handleDisconnect) else none
  | .udp _, _ => none

/-- A client as its constructor leaves it; its configuration may be any. -/
def Fresh : Transport → Prop
  | .udp c => c.running = false ∧ c.connectionSignals = []
  | .mqtt c => c.session = {} ∧ c.connectionSignals = []

/-- The signals of the client are faithful. -/
def Truthful (c : Transport) : Prop := Faithful c.connected c.connectionSignals

instance (c : Transport) : Decidable c.Truthful := inferInstanceAs (Decidable (Faithful _ _))

/-- The operation finds an MQTT client in a state its signals can follow: a drop and a
successful CONNACK find it not connected, a `close` that has a handle finds it connected. -/
def Proper : Transport → Operation → Prop
  | .mqtt c, .close => c.session.mosq.isSome = true → c.session.connected = true
  | .mqtt c, .connack _ rc _ => rc = 0 → c.session.connected = false
  | .mqtt c, .dropped _ => c.session.connected = false
  | _, _ => True

end Transport

/-- A client from its construction on, under every sequence of operations. -/
def transports : System Transport Operation where
  start := Transport.Fresh
  step := Transport.perform

/-! ## UDP -/

section Udp

/-- What a `connect` of the UDP client has told by each of its steps. -/
def udpTold (c : UdpRadioClient) : Udp.ConnectPc → Prop
  | .guard => Faithful c.running c.connectionSignals
  | .signal => c.running = true ∧ Faithful false c.connectionSignals
  | .leave => c.running = true ∧ Faithful true c.connectionSignals
  | _ => c.running = false ∧ Faithful false c.connectionSignals

theorem udpTold_onward {endpoint : Endpoint} {c d : UdpRadioClient} {pc next : Udp.ConnectPc}
    {succeeds : Bool} (told : udpTold c pc)
    (stepped : c.connectStep endpoint pc succeeds = (d, .goes next)) : udpTold d next := by
  cases pc with
  | guard =>
      simp only [UdpRadioClient.connectStep] at stepped
      split at stepped
      · cases stepped
      · rename_i stopped
        cases stepped
        rw [Bool.not_eq_true] at stopped
        exact ⟨stopped, stopped ▸ told⟩
  | signal =>
      cases stepped
      exact ⟨told.1, told.2.onConnect_iff.mpr rfl⟩
  | setRunning =>
      cases stepped
      exact ⟨rfl, told.2⟩
  | leave => cases stepped
  | resolve | createListener | createSocket | startThread =>
      cases succeeds with
      | true =>
          cases stepped
          exact told
      | false => cases stepped
  | createIo | createStrand | resetListener | createWork | startListener =>
      cases stepped
      exact told

theorem udpTold_returned {endpoint : Endpoint} {c d : UdpRadioClient} {pc : Udp.ConnectPc}
    {succeeds : Bool} {result : ConnectResult} (told : udpTold c pc)
    (stepped : c.connectStep endpoint pc succeeds = (d, .returned result)) :
    Faithful d.running d.connectionSignals := by
  cases pc with
  | guard =>
      simp only [UdpRadioClient.connectStep] at stepped
      split at stepped
      · cases stepped
        exact told
      · cases stepped
  | leave =>
      cases stepped
      rw [told.1]
      exact told.2
  | resolve | createListener | createSocket | startThread =>
      cases succeeds
      · cases stepped
        rw [told.1]
        exact told.2
      · cases stepped
  | signal | setRunning | createIo | createStrand | resetListener | createWork | startListener =>
      cases stepped

/-- A `close` of the UDP client always returns; it stops a running client and says so. -/
theorem closeUdp_eq (c : UdpRadioClient) :
    ∃ d, Transport.closeUdp c = some (d, ()) ∧ d.running = false ∧
      d.connectionSignals =
        if c.running then c.connectionSignals ++ [.onDisconnect] else c.connectionSignals := by
  cases running : c.running with
  | false =>
      refine ⟨c, ?_, running, rfl⟩
      simp [Transport.closeUdp, runCall, UdpRadioClient.closeStep, running, List.replicate]
  | true =>
      refine ⟨{ c with
          running := false, work := none, udpOutSocket := none,
          toBaseRadioClient := c.toBaseRadioClient.signal .onDisconnect }, ?_, rfl, rfl⟩
      simp [Transport.closeUdp, runCall, UdpRadioClient.closeStep, running, List.replicate]

/-- Every operation on a UDP client keeps its signals faithful. -/
theorem udp_truthful {c : UdpRadioClient} {operation : Operation} {d : Transport}
    (truthful : Transport.Truthful (.udp c))
    (performed : Transport.perform (.udp c) operation = some d) : d.Truthful := by
  cases operation with
  | connect endpoint answers =>
      obtain ⟨⟨left, result⟩, ended, rfl⟩ := Option.map_eq_some_iff.mp performed
      have told : udpTold c .guard := truthful
      exact runCall_leaves (P := udpTold)
        (Q := fun c _ => Faithful c.running c.connectionSignals)
        (fun _ _ _ _ _ => udpTold_onward) (fun _ _ _ _ _ => udpTold_returned) told ended
  | close =>
      obtain ⟨left, ended, stopped, signals⟩ := closeUdp_eq c
      simp only [Transport.perform, ended, Option.map_some, Option.some.injEq] at performed
      subst performed
      show Faithful left.running left.connectionSignals
      rw [stopped, signals]
      cases running : c.running with
      | false =>
          have same : Faithful c.running c.connectionSignals := truthful
          rwa [running] at same
      | true => exact (Faithful.onDisconnect_iff truthful).mpr running
  | connack h rc accepted => cases performed
  | dropped h => cases performed

end Udp

/-! ## MQTT -/

section Mqtt

/-- A `connect` of the MQTT client neither connects it nor says so. -/
theorem connectMqtt_kept {endpoint : Endpoint} {c d : MqttRadioClient} {answers : List Bool}
    {result : ConnectResult}
    (ended : runCall (MqttRadioClient.connectStep endpoint) c .guard answers = some (d, result)) :
    d.session.connected = c.session.connected ∧ d.connectionSignals = c.connectionSignals := by
  have kept (u : MqttRadioClient) (pc : Mqtt.ConnectPc) (succeeds : Bool) :
      (u.connectStep endpoint pc succeeds).1.session.connected = u.session.connected ∧
        (u.connectStep endpoint pc succeeds).1.connectionSignals = u.connectionSignals :=
    ⟨Mqtt.connectStep_connected endpoint u.session pc succeeds, rfl⟩
  exact runCall_leaves
    (P := fun u _ => u.session.connected = c.session.connected ∧
      u.connectionSignals = c.connectionSignals)
    (Q := fun u _ => u.session.connected = c.session.connected ∧
      u.connectionSignals = c.connectionSignals)
    (fun u pc answer v next holds stepped => by
      have same := kept u pc answer
      rw [stepped] at same
      exact ⟨same.1.trans holds.1, same.2.trans holds.2⟩)
    (fun u pc answer v result holds stepped => by
      have same := kept u pc answer
      rw [stepped] at same
      exact ⟨same.1.trans holds.1, same.2.trans holds.2⟩)
    ⟨rfl, rfl⟩ ended

/-- A `close` of the MQTT client always returns; with a handle it clears the flag and raises
`onDisconnect`, without one it does nothing. -/
theorem closeMqtt_eq (c : MqttRadioClient) :
    ∃ d, Transport.closeMqtt c = some (d, ()) ∧
      (c.session.mosq = none → d = c) ∧
      (c.session.mosq.isSome = true → d.session.connected = false ∧
        d.connectionSignals = c.connectionSignals ++ [.onDisconnect]) := by
  cases points : c.session.mosq with
  | none =>
      refine ⟨c, ?_, fun _ => rfl, by simp⟩
      simp [Transport.closeMqtt, runCall, MqttRadioClient.closeStep, Mqtt.closeStep, points,
        List.replicate]
  | some h =>
      have destroyed :
          ({ c.session with connected := false } : MqttSession).loopStop.destroy.connected =
            false := by
        rw [MqttSession.destroy, onHandle_connected, MqttSession.loopStop, onHandle_connected]
      refine ⟨{ c with
          toBaseRadioClient := c.toBaseRadioClient.signal .onDisconnect
          session := { ({ c.session with connected := false } : MqttSession).loopStop.destroy with
            mosq := none } }, ?_, by simp, fun _ => ⟨destroyed, rfl⟩⟩
      simp [Transport.closeMqtt, runCall, MqttRadioClient.closeStep, Mqtt.closeStep, points,
        List.replicate]

/-- **One operation.**  From a client whose signals are faithful, an operation leaves them
faithful exactly when it is proper. -/
theorem truthful_perform_iff {c : Transport} {operation : Operation} {d : Transport}
    (truthful : c.Truthful) (performed : c.perform operation = some d) :
    d.Truthful ↔ c.Proper operation := by
  cases c with
  | udp c => exact iff_of_true (udp_truthful truthful performed) (by cases operation <;> trivial)
  | mqtt c =>
      cases operation with
      | connect endpoint answers =>
          obtain ⟨⟨left, result⟩, ended, rfl⟩ := Option.map_eq_some_iff.mp performed
          obtain ⟨connected, signals⟩ := connectMqtt_kept ended
          refine iff_of_true ?_ trivial
          show Faithful left.session.connected left.connectionSignals
          rw [connected, signals]
          exact truthful
      | close =>
          obtain ⟨left, ended, without, owning⟩ := closeMqtt_eq c
          simp only [Transport.perform, ended, Option.map_some, Option.some.injEq] at performed
          subst performed
          cases points : c.session.mosq with
          | none =>
              rw [without points]
              refine iff_of_true truthful fun owns => ?_
              rw [points] at owns
              cases owns
          | some h =>
              have owns : c.session.mosq.isSome = true := by rw [points]; rfl
              obtain ⟨connected, signals⟩ := owning owns
              show Faithful left.session.connected left.connectionSignals ↔ _
              rw [connected, signals]
              exact (Faithful.onDisconnect_iff truthful).trans ⟨fun online _ => online,
                fun proper => proper owns⟩
      | connack h rc accepted =>
          simp only [Transport.perform, Option.ite_none_right_eq_some, Option.some.injEq]
            at performed
          obtain ⟨-, rfl⟩ := performed
          by_cases success : rc = 0
          · have connected : (c.handleConnect rc accepted).session.connected = true := by
              cases accepted with
              | true =>
                  simp only [MqttRadioClient.handleConnect, if_pos success,
                    MqttRadioClient.subscribeToTopics, if_true]
                  exact onHandle_connected _ _
              | false => simp [MqttRadioClient.handleConnect, success,
                  MqttRadioClient.subscribeToTopics]
            have signals : (c.handleConnect rc accepted).connectionSignals =
                c.connectionSignals ++ [.onConnect] := by
              cases accepted <;> simp [MqttRadioClient.handleConnect, success,
                MqttRadioClient.subscribeToTopics, BaseRadioClient.signal]
            show Faithful (c.handleConnect rc accepted).session.connected
              (c.handleConnect rc accepted).connectionSignals ↔ _
            rw [connected, signals]
            exact (Faithful.onConnect_iff truthful).trans ⟨fun offline _ => offline,
              fun proper => proper success⟩
          · have unchanged : c.handleConnect rc accepted = c := if_neg success
            rw [unchanged]
            exact iff_of_true truthful fun zero => absurd zero success
      | dropped h =>
          simp only [Transport.perform, Option.ite_none_right_eq_some, Option.some.injEq]
            at performed
          obtain ⟨-, rfl⟩ := performed
          exact (Faithful.flag_iff truthful false).trans eq_comm

/-! ## Whole runs -/

/-- **Exactly which runs have faithful signals.**  From its construction on, a client of either
transport has faithful signals between all operations of a run if and only if every operation
is proper: on UDP every one is; on MQTT no drop and no successful CONNACK may find the client
connected, and no `close` with a handle may find it not connected. -/
theorem signals_faithful_iff {c : Transport} (fresh : c.Fresh) (operations : List Operation) :
    transports.Visits Transport.Truthful c operations ↔
      transports.Complies Transport.Proper c operations := by
  apply System.visits_iff_complies fun _ _ _ => truthful_perform_iff
  cases c with
  | udp c =>
      obtain ⟨stopped, silent⟩ := fresh
      show Faithful c.running c.connectionSignals
      rw [stopped, silent]
      exact faithful_nil
  | mqtt c =>
      obtain ⟨session, silent⟩ := fresh
      show Faithful c.session.connected c.connectionSignals
      rw [session, silent]
      exact faithful_nil

/-- A session of an MQTT client that is ended by `close`. -/
theorem closed_session_faithful_iff :
    transports.Visits Transport.Truthful (.mqtt {})
        [.connect ⟨"localhost", 1883, 0⟩ [true, true, true, true, true], .connack 0 0 true,
          .close] ↔
      transports.Complies Transport.Proper (.mqtt {})
        [.connect ⟨"localhost", 1883, 0⟩ [true, true, true, true, true], .connack 0 0 true,
          .close] :=
  signals_faithful_iff (show Transport.Fresh (.mqtt {}) from ⟨rfl, rfl⟩) _

/-- The broker goes away and comes back: the client is not connected after an `onConnect`, and
raises `onConnect` a second time. -/
theorem broker_drop_unfaithful :
    Transport.Fresh (.mqtt {}) ∧
      ¬ transports.Visits Transport.Truthful (.mqtt {})
        [.connect ⟨"localhost", 1883, 0⟩ [true, true, true, true, true], .connack 0 0 true,
          .dropped 0, .connack 0 0 true] := by
  refine ⟨⟨rfl, rfl⟩, ?_⟩
  intro visits
  have connected := visits.2 _ rfl
  have online := connected.2 _ rfl
  have dropped := online.2 _ rfl
  exact absurd dropped.here (by decide)

end Mqtt

end V2xRosDriver.Driver
