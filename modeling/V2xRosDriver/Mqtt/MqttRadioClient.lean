/-
# Mqtt.MqttRadioClient -- the MQTT transport

The client of the Ettifos OBU: its configuration, its session, the callbacks of
libmosquitto and the outbound path from a message to the topic it is published on.
A payload that arrives goes to the scanner of the base client, which may load the wave
tables on the way; the outbound path only looks them up.
-/
import V2xRosDriver.Mqtt.Session

namespace V2xRosDriver.Mqtt

set_option autoImplicit false

open V2xRosDriver.Theory.Numerals
open V2xRosDriver.Theory.Transition
open V2xRosDriver.Radio

structure MqttRadioClient extends BaseRadioClient where
  clientId : String := ""
  qos : Int := 0
  reconnectIntervalSec : Int := 5
  mqttTopicPrefix : String := "Ettifos/V2X"
  session : MqttSession := {}

/-- The arguments of one `mosquitto_publish` call. -/
structure Publication where
  topic : String
  payload : List UInt8
  qos : Int
  retain : Bool
  deriving DecidableEq, Repr

/-- Override map, only for PSIDs where Ettifos differs from the wave.json mapping.  The rows
are those of the initializer, in its order and with its comments. -/
def kEttifosPsidOverrides : List (String × Int) :=
  [ ("0020", 32),       -- BSM
    ("0083", 131),      -- TIM
    ("0082", 2113687),  -- MAP
    ("0082", 130),      -- SPAT
    ("8010", 144),      -- SDSM
    ("0027", 39),       -- PSM
    ("BFEE", 16494) ]   -- Mobility Messages

/-- `kEttifosPsidOverrides.find (psidHex)`: an `unordered_map` keeps one row a key, the first
one inserted. -/
def ettifosOverride (psidHex : String) : Option Int :=
  kEttifosPsidOverrides.lookup psidHex

/-- The number a PSID string is published under. -/
def decimalPsid (psidHex : String) : Except StoiError Int :=
  match ettifosOverride psidHex with
  | some override => .ok override
  | none => stoi16 psidHex

namespace MqttRadioClient

def setMqttConfig (c : MqttRadioClient) (clientId : String) (qos reconnectIntervalSec : Int)
    (mqttTopicPrefix : String) : MqttRadioClient :=
  { c with
    clientId := clientId
    qos := qos
    reconnectIntervalSec := reconnectIntervalSec
    mqttTopicPrefix := mqttTopicPrefix }

/-- The topic of a published number. -/
def topicOf (c : MqttRadioClient) (number : Int) : String :=
  c.mqttTopicPrefix ++ "/req/J2735/" ++ toString number

def buildPublishTopic (c : MqttRadioClient) (psidHex : String) : Except Fault String :=
  match decimalPsid psidHex with
  | .ok number => .ok (c.topicOf number)
  | .error error => .error (.stoi error)

def buildSubscribeTopic (c : MqttRadioClient) : String :=
  c.mqttTopicPrefix ++ "/ind/J2735/#"

/-! ## Sending -/

/-- The PSID string a DSRCmsgID is sent under: the configured one, or the raw id where there
is none. -/
def psidToSend (c : MqttRadioClient) (dsrcMsgId : Nat) : Except Fault String := do
  let psid ← c.psidForDsrcMsgId (toString dsrcMsgId)
  return if psid.isEmpty then toString dsrcMsgId else psid

/-- `sendV2xMessage`: the publication it hands to libmosquitto, if it comes that far, and its
result.  `accepted` is libmosquitto's answer. -/
def sendV2xMessage (c : MqttRadioClient) (message : Option (List UInt8)) (accepted : Bool) :
    Except Fault (Option Publication × Bool) :=
  if ¬ c.session.connected ∨ c.session.mosq.isNone then .ok (none, false)
  else
    match message with
    | some (hi :: lo :: content) => do
        let psid ← c.psidToSend (word hi lo)
        let topic ← c.buildPublishTopic psid
        return (some ⟨topic, hi :: lo :: content, c.qos, false⟩, accepted)
    | _ => .ok (none, false)

/-! ## Callbacks -/

/-- `subscribeToTopics`; `accepted` is libmosquitto's answer. -/
def subscribeToTopics (c : MqttRadioClient) (accepted : Bool) : MqttRadioClient :=
  if accepted then
    { c with
      session := c.session.onHandle fun handle =>
        { handle with filters := handle.filters ++ [c.buildSubscribeTopic] } }
  else c

def handleConnect (c : MqttRadioClient) (rc : Int) (accepted : Bool) : MqttRadioClient :=
  if rc = 0 then
    let connected := { c with session := { c.session with connected := true } }
    let subscribed := connected.subscribeToTopics accepted
    { subscribed with toBaseRadioClient := subscribed.toBaseRadioClient.signal .onConnect }
  else c

def handleDisconnect (c : MqttRadioClient) : MqttRadioClient :=
  { c with session := { c.session with connected := false } }

/-- `handleMessage`; a message without a payload is dropped. -/
def handleMessage (files : WaveFiles) (c : MqttRadioClient) (payload : List UInt8) :
    Except Fault Unit × MqttRadioClient :=
  if payload.isEmpty then (.ok (), c)
  else
    let processed := exec (process files payload) c.toBaseRadioClient
    (processed.1, { c with toBaseRadioClient := processed.2 })

/-! ## Connecting and closing -/

/-- One step of `connect`. -/
def connectStep (endpoint : Endpoint) (c : MqttRadioClient) (pc : ConnectPc) (succeeds : Bool) :
    MqttRadioClient × Progress ConnectPc ConnectResult :=
  let stepped := Mqtt.connectStep endpoint c.session pc succeeds
  ({ c with session := stepped.1 }, stepped.2)

/-- One step of `close`; the last one raises `onDisconnect`. -/
def closeStep (c : MqttRadioClient) (pc : ClosePc) : MqttRadioClient × Progress ClosePc Unit :=
  let stepped := Mqtt.closeStep c.session pc
  let base := if pc = .signal then c.toBaseRadioClient.signal .onDisconnect
    else c.toBaseRadioClient
  ({ c with toBaseRadioClient := base, session := stepped.1 }, stepped.2)

end MqttRadioClient

end V2xRosDriver.Mqtt
