/-
# Mqtt.Linking -- how far a connect has brought the handle of a new client

A client that never had a handle makes one in `connect`, starts its loop and sends it to the
broker.  From then on libmosquitto calls back, and on every drop it connects again by itself;
the flag and the filters come and go with these callbacks, the handle, its loop and its broker
stay (`SameHandles`).  So where each library call succeeds, `connect` leaves the client with a
live handle that speaks to the broker it was told (`Hailing.step`), whatever came in between.
-/
import V2xRosDriver.Mqtt.Ownership

namespace V2xRosDriver.Mqtt

set_option autoImplicit false

open V2xRosDriver.Radio
open V2xRosDriver.Theory.Transition

/-- The client has a live handle, sent to the broker of the endpoint. -/
def SpeaksTo (endpoint : Endpoint) (s : MqttSession) : Prop :=
  ∃ h, s.mosq = some h ∧ s.CanCallBack h ∧
    (s.handles h).endpoint = some (endpoint.remoteAddress, (endpoint.remotePort.toNat : Int))

/-- The client has a new handle, whose loop runs or is still to be started, and knows the broker
of the endpoint. -/
structure Holding (endpoint : Endpoint) (looping : Bool) (s : MqttSession) : Prop where
  address : s.brokerAddress = endpoint.remoteAddress
  port : s.brokerPort = endpoint.remotePort.toNat
  handle : ∃ h, s.mosq = some h ∧ h < s.created ∧ (s.handles h).looping = looping ∧
    (s.handles h).destroys = 0

/-- A `connect` call of a client without a handle on its way. -/
def Hailing (endpoint : Endpoint) (s : MqttSession) : ConnectPc → Prop
  | .guard => s.connected = false ∧ s.created = 0
  | .create => s.brokerAddress = endpoint.remoteAddress ∧ s.brokerPort = endpoint.remotePort.toNat
  | .loopStart => Holding endpoint false s
  | .initiate => Holding endpoint true s
  | .leave => SpeaksTo endpoint s
  | .abortLoopStop | .abortDestroy | .abortClear => False

/-- The same handles, looping and sent to the same brokers; the flag and the filters may differ. -/
structure SameHandles (s t : MqttSession) : Prop where
  mosq : t.mosq = s.mosq
  created : t.created = s.created
  address : t.brokerAddress = s.brokerAddress
  port : t.brokerPort = s.brokerPort
  looping : ∀ h, (t.handles h).looping = (s.handles h).looping
  endpoint : ∀ h, (t.handles h).endpoint = (s.handles h).endpoint
  destroys : ∀ h, (t.handles h).destroys = (s.handles h).destroys

section Callbacks

variable {endpoint : Endpoint} {s t : MqttSession}

theorem sameHandles_handleConnect (c : MqttRadioClient) (rc : Int) (accepted : Bool) :
    SameHandles c.session (c.handleConnect rc accepted).session := by
  unfold MqttRadioClient.handleConnect MqttRadioClient.subscribeToTopics
  split
  · cases accepted with
    | false => exact ⟨rfl, rfl, rfl, rfl, fun _ => rfl, fun _ => rfl, fun _ => rfl⟩
    | true =>
        have broker (u : MqttSession) (call : Mosquitto → Mosquitto) :
            (u.onHandle call).brokerAddress = u.brokerAddress ∧
              (u.onHandle call).brokerPort = u.brokerPort := by
          rw [MqttSession.onHandle]
          split <;> exact ⟨rfl, rfl⟩
        refine ⟨onHandle_mosq _ _, onHandle_created _ _, (broker _ _).1, (broker _ _).2, ?_, ?_, ?_⟩
        all_goals
          intro h
          simp only [if_true, onHandle_handles]
          split <;> rfl
  · exact ⟨rfl, rfl, rfl, rfl, fun _ => rfl, fun _ => rfl, fun _ => rfl⟩

theorem sameHandles_handleDisconnect (c : MqttRadioClient) :
    SameHandles c.session c.handleDisconnect.session :=
  ⟨rfl, rfl, rfl, rfl, fun _ => rfl, fun _ => rfl, fun _ => rfl⟩

theorem SpeaksTo.congr (speaks : SpeaksTo endpoint s) (same : SameHandles s t) :
    SpeaksTo endpoint t := by
  obtain ⟨h, points, ⟨below, looping, sent, alive⟩, broker⟩ := speaks
  refine ⟨h, same.mosq.trans points, ⟨?_, ?_, ?_, ?_⟩, (same.endpoint h).trans broker⟩
  · rw [same.created]
    exact below
  · exact (same.looping h).trans looping
  · rw [same.endpoint h]
    exact sent
  · exact (same.destroys h).trans alive

theorem Holding.congr {looping : Bool} (holding : Holding endpoint looping s)
    (same : SameHandles s t) : Holding endpoint looping t := by
  obtain ⟨address, port, h, points, below, loops, alive⟩ := holding
  refine ⟨same.address.trans address, same.port.trans port, h, same.mosq.trans points, ?_,
    (same.looping h).trans loops, (same.destroys h).trans alive⟩
  rw [same.created]
  exact below

/-- A callback of one of its handles leaves a `connect` call where it was: before the guard there
is none that could call back. -/
theorem Hailing.callBack {pc : ConnectPc} {h : Nat} (hailing : Hailing endpoint s pc)
    (calls : s.CanCallBack h) (same : SameHandles s t) : Hailing endpoint t pc := by
  cases pc with
  | guard =>
      have below := calls.1
      rw [hailing.2] at below
      exact absurd below (Nat.not_lt_zero h)
  | create => exact ⟨same.address.trans hailing.1, same.port.trans hailing.2⟩
  | loopStart | initiate => exact Holding.congr hailing same
  | leave => exact SpeaksTo.congr hailing same
  | abortLoopStop | abortDestroy | abortClear => exact hailing

end Callbacks

/-- Where every library call succeeds, `connect` goes on or leaves the client with its handle. -/
theorem Hailing.step {endpoint : Endpoint} {s next : MqttSession} {pc : ConnectPc}
    {progress : Progress ConnectPc ConnectResult} (hailing : Hailing endpoint s pc)
    (stepped : connectStep endpoint s pc true = (next, progress)) :
    (∃ later, progress = .goes later ∧ Hailing endpoint next later) ∨
      progress.pc? = none ∧ SpeaksTo endpoint next := by
  cases pc with
  | guard =>
      simp only [connectStep, hailing.1, Bool.false_eq_true, if_false] at stepped
      cases stepped
      exact .inl ⟨.create, rfl, rfl, rfl⟩
  | create =>
      obtain ⟨address, port⟩ := hailing
      cases stepped
      refine .inl ⟨.loopStart, rfl, address, port, s.created, rfl, Nat.lt_succ_self _, ?_, ?_⟩ <;>
        simp [MqttSession.mosquittoNew]
  | loopStart =>
      obtain ⟨address, port, h, points, below, loops, alive⟩ := hailing
      simp only [connectStep, points, Option.isSome_some, and_self, if_true] at stepped
      cases stepped
      refine .inl ⟨.initiate, rfl, ?_⟩
      simp only [MqttSession.loopStart, MqttSession.onHandle, points]
      exact ⟨address, port, h, rfl, below, by simp, by simpa using alive⟩
  | initiate =>
      obtain ⟨address, port, h, points, below, loops, alive⟩ := hailing
      simp only [connectStep, points, Option.isSome_some, and_self, if_true] at stepped
      cases stepped
      refine .inl ⟨.leave, rfl, ?_⟩
      simp only [MqttSession.initiate, MqttSession.onHandle, points]
      refine ⟨h, rfl, ⟨below, ?_, ?_, ?_⟩, ?_⟩
      · simpa using loops
      · simp
      · simpa using alive
      · simp [address, port]
  | leave =>
      cases stepped
      exact .inr ⟨rfl, hailing⟩
  | abortLoopStop | abortDestroy | abortClear => exact hailing.elim

end V2xRosDriver.Mqtt
