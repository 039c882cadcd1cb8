/-
# Mqtt.Routing -- the topic a message is published on, and traffic

The topic of an outbound message is decided by its DSRCmsgID, the wave tables and the
override map.  The tables are loaded by the inbound path only: a client that has received
nothing worth a look sends under the raw id, so the topic depends on traffic
(`routing_independent_iff`).

`receive_unloaded` is the state lemma behind it.  Whatever arrives, a client either has
exactly the entries of its file or, if nothing was long enough, no entry at all.
-/
import V2xRosDriver.Mqtt.MqttRadioClient
import V2xRosDriver.Radio.WaveTables

namespace V2xRosDriver.Mqtt

set_option autoImplicit false

open V2xRosDriver.Theory.Numerals
open V2xRosDriver.Theory.Transition
open V2xRosDriver.Radio

/-! ## Where a message is routed -/

/-- The string a DSRCmsgID is routed by, the wave file's psid or else the raw id. -/
def route (table : List WaveConfigStruct) (dsrcMsgId : Nat) : String :=
  if (firstPsid table (toString dsrcMsgId)).isEmpty then toString dsrcMsgId
  else firstPsid table (toString dsrcMsgId)

/-- `sendV2xMessage` publishes `message` on `topic`, whatever libmosquitto answers. -/
def PublishesOn (c : MqttRadioClient) (message : List UInt8) (topic : String) : Prop :=
  ∀ accepted, c.sendV2xMessage (some message) accepted =
    .ok (some ⟨topic, message, c.qos, false⟩, accepted)

/-- One message is published on one topic. -/
theorem PublishesOn.unique {c : MqttRadioClient} {message : List UInt8} {one other : String}
    (first : PublishesOn c message one) (second : PublishesOn c message other) : one = other := by
  have same := (first true).symm.trans (second true)
  simp only [Except.ok.injEq, Prod.mk.injEq, Option.some.injEq, Publication.mk.injEq] at same
  exact same.1.1

theorem topicOf_inj {c : MqttRadioClient} {m n : Int} : c.topicOf m = c.topicOf n ↔ m = n := by
  constructor
  · intro same
    have chars := congrArg String.toList same
    simp only [MqttRadioClient.topicOf, String.toList_append, List.append_cancel_left_eq] at chars
    exact Int.repr_injective (String.toList_inj.mp chars)
  · rintro rfl
    rfl

theorem buildPublishTopic_ok_iff {c : MqttRadioClient} {psid topic : String} :
    c.buildPublishTopic psid = .ok topic ↔
      ∃ number, decimalPsid psid = .ok number ∧ topic = c.topicOf number := by
  unfold MqttRadioClient.buildPublishTopic
  cases decimalPsid psid with
  | error error => simp
  | ok number => simp [eq_comm]

/-- A connected client publishes on the topic of the string it routes the message by. -/
theorem publishesOn_iff {c : MqttRadioClient} {message : List UInt8} {topic psid : String}
    (connected : c.session.connected = true) (owns : c.session.mosq.isSome = true)
    (long : 2 ≤ message.length) (routed : c.psidToSend (headWord message) = .ok psid) :
    PublishesOn c message topic ↔
      ∃ number, decimalPsid psid = .ok number ∧ topic = c.topicOf number := by
  match message, long with
  | hi :: lo :: content, _ =>
      have ready : ¬ (¬ c.session.connected ∨ c.session.mosq.isNone) := by
        simp only [connected, not_true_eq_false, false_or]
        cases handle : c.session.mosq with
        | none => simp [handle] at owns
        | some h => simp
      have sent : c.psidToSend (word hi lo) = .ok psid := routed
      rw [← buildPublishTopic_ok_iff]
      unfold PublishesOn MqttRadioClient.sendV2xMessage
      simp only [if_neg ready, sent]
      cases built : c.buildPublishTopic psid with
      | error fault => simp [built, bind, Except.bind]
      | ok topic' => simp [built, bind, Except.bind, pure, Except.pure, eq_comm]

/-! ## Lookups -/

theorem psidForDsrcMsgId_of_loaded {files : WaveFiles} {table : List WaveConfigStruct}
    {c : BaseRadioClient} (loaded : Loaded files table c) (dsrcMsgId : Nat) :
    c.psidForDsrcMsgId (toString dsrcMsgId) = .ok (firstPsid table (toString dsrcMsgId)) :=
  loaded.aligned.psidForDsrcMsgId (toString dsrcMsgId)

/-- A client with tables routes by the wave file. -/
theorem psidToSend_of_loaded {files : WaveFiles} {table : List WaveConfigStruct}
    {c : MqttRadioClient} (loaded : Loaded files table c.toBaseRadioClient) (dsrcMsgId : Nat) :
    c.psidToSend dsrcMsgId = .ok (route table dsrcMsgId) := by
  unfold MqttRadioClient.psidToSend
  rw [psidForDsrcMsgId_of_loaded loaded]
  rfl

/-- A client without tables routes by the raw id. -/
theorem psidToSend_of_unloaded {c : MqttRadioClient} (noIds : c.waveCfgDsrcMsgIds = [])
    (dsrcMsgId : Nat) : c.psidToSend dsrcMsgId = .ok (toString dsrcMsgId) := by
  unfold MqttRadioClient.psidToSend BaseRadioClient.psidForDsrcMsgId
  rw [noIds]
  rfl

/-! ## What received payloads do to the tables -/

section Receiving

variable {files : WaveFiles} {table : List WaveConfigStruct}

/-- Handle payloads in the order they arrive.  A fault that leaves `handleMessage` ends the process,
so that the runs with a send behind them are those whose payloads all return. -/
def receive (files : WaveFiles) (c : MqttRadioClient) (payloads : List (List UInt8)) :
    MqttRadioClient :=
  payloads.foldl (fun c payload => (c.handleMessage files payload).2) c

/-- Some payload is long enough for the scanner to look at its first word. -/
def Primed (payloads : List (List UInt8)) : Prop := ∃ payload ∈ payloads, 4 ≤ payload.length

instance (payloads : List (List UInt8)) : Decidable (Primed payloads) :=
  inferInstanceAs (Decidable (∃ payload ∈ payloads, _))

/-- No table has been loaded yet, and the file to load is accepted. -/
structure Unloaded (files : WaveFiles) (table : List WaveConfigStruct) (c : BaseRadioClient) :
    Prop where
  noIds : c.waveCfgDsrcMsgIds = []
  noPsids : c.waveCfgPsids = []
  named : c.waveFilePath.isEmpty = false
  valid : files c.waveFilePath = .accepted table

/-- The client after loading its file. -/
def loadedFrom (files : WaveFiles) (c : BaseRadioClient) : BaseRadioClient :=
  (exec (loadWaveConfigIds files c.waveFilePath) c).2

theorem Unloaded.loaded {c : BaseRadioClient} (unloaded : Unloaded files table c) :
    Loaded files table (loadedFrom files c) :=
  loaded_of_load unloaded.valid unloaded.noIds unloaded.noPsids

/-- An unloaded client that looks for its tables loads its file. -/
theorem Unloaded.lazyLoad {c : BaseRadioClient} (unloaded : Unloaded files table c) :
    lazyLoad files c = loadedFrom files c := by
  have reads : c.waveCfgDsrcMsgIds.isEmpty ∧ ¬ c.waveFilePath.isEmpty := by
    rw [unloaded.noIds, unloaded.named]
    exact ⟨rfl, Bool.false_ne_true⟩
  exact if_pos reads

/-- The first payload the scanner looks into is handled as if the file had been loaded before. -/
theorem exec_process_unloaded {c : BaseRadioClient} (unloaded : Unloaded files table c)
    {data : List UInt8} (long : 4 ≤ data.length) :
    exec (process files data) c = exec (process files data) (loadedFrom files c) := by
  have aligned : Aligned [] c := ⟨unloaded.noIds, unloaded.noPsids⟩
  rw [aligned.process long, unloaded.lazyLoad]

/-- The log of signals apart, handling payloads changes the tables only. -/
theorem receive_frame (c : MqttRadioClient) (payloads : List (List UInt8)) :
    (receive files c payloads).session = c.session ∧
      (receive files c payloads).mqttTopicPrefix = c.mqttTopicPrefix ∧
      (receive files c payloads).qos = c.qos := by
  induction payloads generalizing c with
  | nil => exact ⟨rfl, rfl, rfl⟩
  | cons payload rest ih =>
      have one : (c.handleMessage files payload).2.session = c.session ∧
          (c.handleMessage files payload).2.mqttTopicPrefix = c.mqttTopicPrefix ∧
          (c.handleMessage files payload).2.qos = c.qos := by
        unfold MqttRadioClient.handleMessage
        split <;> exact ⟨rfl, rfl, rfl⟩
      obtain ⟨session, topicPrefix, qos⟩ := ih (c.handleMessage files payload).2
      exact ⟨session.trans one.1, topicPrefix.trans one.2.1, qos.trans one.2.2⟩

/-- One payload keeps loaded tables. -/
theorem handleMessage_loaded {c : MqttRadioClient} (loaded : Loaded files table c.toBaseRadioClient)
    (payload : List UInt8) :
    Loaded files table (c.handleMessage files payload).2.toBaseRadioClient := by
  unfold MqttRadioClient.handleMessage
  split
  · exact loaded
  · simp only [process_eq_inbound loaded]
    cases inbound table payload with
    | silent => exact loaded
    | delivered signal => exact loaded.log _
    | failed fault => exact loaded

theorem receive_loaded {c : MqttRadioClient} (loaded : Loaded files table c.toBaseRadioClient)
    (payloads : List (List UInt8)) :
    Loaded files table (receive files c payloads).toBaseRadioClient := by
  induction payloads generalizing c with
  | nil => exact loaded
  | cons payload rest ih => exact ih (handleMessage_loaded loaded payload)

/-- An unloaded client has its tables as soon as one payload was long enough, and none of
them before. -/
theorem receive_unloaded {c : MqttRadioClient} (unloaded : Unloaded files table c.toBaseRadioClient)
    (payloads : List (List UInt8)) :
    (Primed payloads ∧ Loaded files table (receive files c payloads).toBaseRadioClient) ∨
      (¬ Primed payloads ∧ (receive files c payloads).waveCfgDsrcMsgIds = []) := by
  induction payloads with
  | nil => exact Or.inr ⟨by simp [Primed], unloaded.noIds⟩
  | cons payload rest ih =>
      by_cases long : 4 ≤ payload.length
      · left
        refine ⟨⟨payload, by simp, long⟩, receive_loaded ?_ rest⟩
        have nonempty : ¬ payload.isEmpty = true := by
          rw [List.isEmpty_iff_length_eq_zero]
          omega
        -- from here on the file might as well have been loaded before
        have same : (c.handleMessage files payload).2.toBaseRadioClient =
            (({ c with toBaseRadioClient := loadedFrom files c.toBaseRadioClient }
              : MqttRadioClient).handleMessage files payload).2.toBaseRadioClient := by
          simp only [MqttRadioClient.handleMessage, if_neg nonempty,
            exec_process_unloaded unloaded long]
        rw [same]
        exact handleMessage_loaded unloaded.loaded payload
      · have unchanged : (c.handleMessage files payload).2 = c := by
          unfold MqttRadioClient.handleMessage
          rw [exec_process_short (by omega)]
          split <;> rfl
        have skipped : receive files c (payload :: rest) = receive files c rest := by
          show receive files (c.handleMessage files payload).2 rest = receive files c rest
          rw [unchanged]
        have primed : Primed (payload :: rest) ↔ Primed rest := by simp [Primed, long]
        rw [skipped, primed]
        exact ih

end Receiving

/-! ## Routing and traffic -/

/-- What the node tells an MQTT client before it sends, and whether the broker accepts the
subscription. -/
structure Setup where
  clientId : String := ""
  qos : Int := 0
  reconnectIntervalSec : Int := 5
  mqttTopicPrefix : String := "Ettifos/V2X"
  waveFilePath : String
  endpoint : Endpoint := ⟨"localhost", 1883, 0⟩
  subscribed : Bool := true

namespace Setup

/-- The client that is told its configuration and its wave file. -/
def configured (setup : Setup) : MqttRadioClient :=
  let client := ({} : MqttRadioClient).setMqttConfig setup.clientId setup.qos
    setup.reconnectIntervalSec setup.mqttTopicPrefix
  { client with
    toBaseRadioClient := (exec (setWaveFilePath setup.waveFilePath) client.toBaseRadioClient).2 }

/-- A call of `connect` whose library calls all succeed. -/
def connected (setup : Setup) : Option (MqttRadioClient × ConnectResult) :=
  runCall (MqttRadioClient.connectStep setup.endpoint) setup.configured .guard
    [true, true, true, true, true]

/-- The client after that call and a CONNACK that reports success. -/
def client (setup : Setup) : MqttRadioClient :=
  match setup.connected with
  | some (c, _) => c.handleConnect 0 setup.subscribed
  | none => setup.configured

/-- The connection always succeeds. -/
theorem connected_ok (setup : Setup) : ∃ c, setup.connected = some (c, .ok ()) := ⟨_, rfl⟩

theorem client_session (setup : Setup) :
    setup.client.session.connected = true ∧ setup.client.session.mosq = some 0 := by
  obtain ⟨clientId, qos, interval, topicPrefix, path, endpoint, subscribed⟩ := setup
  cases subscribed <;> exact ⟨rfl, rfl⟩

theorem client_unloaded {files : WaveFiles} {table : List WaveConfigStruct} {setup : Setup}
    (named : setup.waveFilePath ≠ "") (valid : files setup.waveFilePath = .accepted table) :
    Unloaded files table setup.client.toBaseRadioClient := by
  have path : setup.client.waveFilePath = setup.waveFilePath := by
    obtain ⟨clientId, qos, interval, topicPrefix, path, endpoint, subscribed⟩ := setup
    cases subscribed <;> rfl
  refine ⟨?_, ?_, ?_, ?_⟩
  · obtain ⟨clientId, qos, interval, topicPrefix, path, endpoint, subscribed⟩ := setup
    cases subscribed <;> rfl
  · obtain ⟨clientId, qos, interval, topicPrefix, path, endpoint, subscribed⟩ := setup
    cases subscribed <;> rfl
  · rw [path, Bool.eq_false_iff]
    exact fun empty => named (String.isEmpty_iff.mp empty)
  · rw [path, valid]

end Setup

section Traffic

variable {files : WaveFiles} {table : List WaveConfigStruct} {setup : Setup}

theorem topicOf_congr {c d : MqttRadioClient} (same : c.mqttTopicPrefix = d.mqttTopicPrefix)
    (number : Int) : c.topicOf number = d.topicOf number := by
  rw [MqttRadioClient.topicOf, MqttRadioClient.topicOf, same]

/-- After some traffic, a message is published under its routed number if the client is
primed, and under the number of its raw id if not. -/
theorem receive_publishesOn_iff (named : setup.waveFilePath ≠ "")
    (valid : files setup.waveFilePath = .accepted table) {message : List UInt8}
    (long : 2 ≤ message.length) (payloads : List (List UInt8)) {number : Int}
    (routed : decimalPsid (route table (headWord message)) = .ok number) :
    PublishesOn (receive files setup.client payloads) message (setup.client.topicOf number) ↔
      Primed payloads ∨ decimalPsid (toString (headWord message)) = .ok number := by
  obtain ⟨session, topicPrefix, -⟩ := @receive_frame files setup.client payloads
  obtain ⟨connected, owns⟩ := setup.client_session
  have online : (receive files setup.client payloads).session.connected = true := by
    rw [session, connected]
  have owning : (receive files setup.client payloads).session.mosq.isSome = true := by
    rw [session, owns]
    rfl
  have topics (other : Int) : setup.client.topicOf number =
      (receive files setup.client payloads).topicOf other ↔ number = other := by
    rw [topicOf_congr topicPrefix]
    exact topicOf_inj
  rcases receive_unloaded (Setup.client_unloaded named valid) payloads with
    ⟨primed, loaded⟩ | ⟨unprimed, noIds⟩
  · rw [publishesOn_iff online owning long (psidToSend_of_loaded loaded _)]
    simp [topics, routed, primed]
  · rw [publishesOn_iff online owning long (psidToSend_of_unloaded noIds _)]
    simp [topics, unprimed]

/-- **Exactly when the topic does not depend on traffic.**  Two clients prepared alike that
received different payloads publish a message on the same topic, the one of the wave file's
psid, if and only if that psid has a number and each client either received a payload of at
least four bytes or would read the same number out of the raw id. -/
theorem routing_independent_iff (named : setup.waveFilePath ≠ "")
    (valid : files setup.waveFilePath = .accepted table) {message : List UInt8}
    (long : 2 ≤ message.length) (first second : List (List UInt8)) :
    (∃ topic, setup.client.buildPublishTopic (route table (headWord message)) = .ok topic ∧
        PublishesOn (receive files setup.client first) message topic ∧
        PublishesOn (receive files setup.client second) message topic) ↔
      ∃ number, decimalPsid (route table (headWord message)) = .ok number ∧
        (Primed first ∨ decimalPsid (toString (headWord message)) = .ok number) ∧
        (Primed second ∨ decimalPsid (toString (headWord message)) = .ok number) := by
  constructor
  · intro independent
    obtain ⟨topic, built, one, two⟩ := independent
    obtain ⟨number, routed, rfl⟩ := buildPublishTopic_ok_iff.mp built
    exact ⟨number, routed, (receive_publishesOn_iff named valid long first routed).mp one,
      (receive_publishesOn_iff named valid long second routed).mp two⟩
  · intro same
    obtain ⟨number, routed, one, two⟩ := same
    exact ⟨setup.client.topicOf number, buildPublishTopic_ok_iff.mpr ⟨number, routed, rfl⟩,
      (receive_publishesOn_iff named valid long first routed).mpr one,
      (receive_publishesOn_iff named valid long second routed).mpr two⟩

/-- The node's default configuration with the installed wave file. -/
def shippedSetup : Setup := { waveFilePath := "share/v2x_ros_driver/etc/wave.json" }

/-- A BSM, before and after four bytes of traffic. -/
theorem bsm_routing_independent_iff :
    (∃ topic, shippedSetup.client.buildPublishTopic (route waveJson 20) = .ok topic ∧
        PublishesOn (receive shippedFiles shippedSetup.client []) [0x00, 0x14] topic ∧
        PublishesOn (receive shippedFiles shippedSetup.client [[0, 0, 0, 0]]) [0x00, 0x14]
          topic) ↔
      ∃ number, decimalPsid (route waveJson 20) = .ok number ∧
        (Primed [] ∨ decimalPsid (toString 20) = .ok number) ∧
        (Primed [[0, 0, 0, 0]] ∨ decimalPsid (toString 20) = .ok number) :=
  @routing_independent_iff shippedFiles waveJson shippedSetup (by decide) rfl [0x00, 0x14]
    (by decide) [] [[0, 0, 0, 0]]

/-- A MAP message goes to 24, the raw id 18 read in base 16, before any traffic, and to
2113687 after four bytes of it. -/
theorem map_topic_depends_on_traffic :
    shippedSetup.waveFilePath ≠ "" ∧
      shippedFiles shippedSetup.waveFilePath = .accepted waveJson ∧
      PublishesOn (receive shippedFiles shippedSetup.client []) [0x00, 0x12]
        "Ettifos/V2X/req/J2735/24" ∧
      PublishesOn (receive shippedFiles shippedSetup.client [[0, 0, 0, 0]]) [0x00, 0x12]
        "Ettifos/V2X/req/J2735/2113687" ∧
      ¬ ∃ topic, PublishesOn (receive shippedFiles shippedSetup.client []) [0x00, 0x12] topic ∧
        PublishesOn (receive shippedFiles shippedSetup.client [[0, 0, 0, 0]]) [0x00, 0x12]
          topic := by
  have fresh : PublishesOn (receive shippedFiles shippedSetup.client []) [0x00, 0x12]
      "Ettifos/V2X/req/J2735/24" := by
    intro accepted
    cases accepted <;> decide
  have primed : PublishesOn (receive shippedFiles shippedSetup.client [[0, 0, 0, 0]])
      [0x00, 0x12] "Ettifos/V2X/req/J2735/2113687" := by
    intro accepted
    cases accepted <;> decide
  refine ⟨by decide, rfl, fresh, primed, ?_⟩
  intro same
  obtain ⟨topic, one, two⟩ := same
  exact absurd ((fresh.unique one).trans (two.unique primed)) (by decide)

end Traffic

end V2xRosDriver.Mqtt
