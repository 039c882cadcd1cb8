/-
# Driver.Outbound -- the messages the node sends

Other nodes hand the driver a `ByteArray` on a topic or in a service request.  For MQTT its
content goes to the radio client as it is, for UDP it is packed into twelve lines of text
first.  The topic's handler sends through a queue, the service's handler directly.

What `connected ()` and `sendV2xMessage` answer is a parameter of a handler: the client
belongs to other threads as well, and may change between the two calls.  Every call of
`sendV2xMessage` is logged, and what a handler did before a fault stays done.
-/
import V2xRosDriver.Driver.Machine
import V2xRosDriver.Radio.Scanner
import V2xRosDriver.Theory.Text

namespace V2xRosDriver.Driver

set_option autoImplicit false

open V2xRosDriver.Theory.Numerals
open V2xRosDriver.Theory.Text
open V2xRosDriver.Radio

/-- `carma_driver_msgs::msg::ByteArray`, without its header. -/
structure ByteArrayMsg where
  messageType : String
  content : List UInt8
  deriving DecidableEq, Repr

/-! ## The text format -/

/-- `std::hex`, `std::setfill ('0')`, and `std::setw (2)` in front of every byte. -/
def uint8VectorToHexString (v : List UInt8) : List UInt8 :=
  v.flatMap fun byte => (List.leftpad 2 '0' (Nat.toDigits 16 byte.toNat)).map Char.toUInt8

/-- The entry made up for a type without one. -/
def defaultWaveItem (messageType : String) (dsrcMsgId : Nat) : WaveConfigStruct :=
  { name := messageType
    psid := toString dsrcMsgId
    dsrcMsgId := toString dsrcMsgId
    channel := "CCH"
    priority := "1" }

/-- The entry a message is packed with; without one the first two bytes of the content are
read, whether there are two or not. -/
def waveItem (items : List WaveConfigStruct) (message : ByteArrayMsg) :
    Except Fault WaveConfigStruct :=
  match items.find? (·.name == message.messageType) with
  | some entry => return entry
  | none => return defaultWaveItem message.messageType (← wordAt message.content 0)

/-- `std::endl`. -/
def newline : UInt8 := 10

/-- A number is printed without a newline. -/
theorem newline_notMem_toString (n : Nat) : newline ∉ bytesOf (toString n) := by
  intro member
  obtain ⟨c, printed, code⟩ := (mem_bytesOf (by decide)).mp member
  have ended : c = '\n' := Char.toNat_inj.mp code
  exact absurd (ended ▸ isDigit_of_mem_toString printed) (by decide)

/-- The lines written for an entry and a content. -/
def waveLines (cfg : WaveConfigStruct) (content : List UInt8) : List (List UInt8) :=
  [ bytesOf "Version=0.7",
    bytesOf ("Type=" ++ cfg.name),
    bytesOf ("PSID=" ++ cfg.psid),
    bytesOf ("Priority=" ++ cfg.priority),
    bytesOf "TxMode=ALT",
    bytesOf ("TxChannel=" ++ cfg.channel),
    bytesOf "TxInterval=0",
    bytesOf "DeliveryStart=",
    bytesOf "DeliveryStop=",
    bytesOf "Signature=False",
    bytesOf "Encryption=False",
    bytesOf "Payload=" ++ uint8VectorToHexString content ]

def packMessage (items : List WaveConfigStruct) (message : ByteArrayMsg) :
    Except Fault (List UInt8) := do
  let cfg ← waveItem items message
  return unlines newline (waveLines cfg message.content)

/-! ## The handlers -/

/-- One call of `radio_client_->sendV2xMessage` and how it ended. -/
structure SendCall where
  client : Option Nat
  message : List UInt8
  result : Except Fault Bool
  deriving DecidableEq

/-- The node with its queue of messages to send, and the log of what it sent. -/
structure SendingNode extends Node where
  sendMsgQueue : List (List UInt8) := []
  sendCalls : List SendCall := []

namespace SendingNode

variable (connected : Bool) (send : List UInt8 → Except Fault Bool)

/-- `radio_client_->sendV2xMessage (message)`. -/
def sendV2xMessage (s : SendingNode) (message : List UInt8) : Except Fault Bool × SendingNode :=
  (send message,
    { s with sendCalls := s.sendCalls ++ [⟨s.radioClient, message, send message⟩] })

/-- What is sent for a message: its content for MQTT, the text for UDP. -/
def messageContent (s : SendingNode) (message : ByteArrayMsg) : Except Fault (List UInt8) :=
  if s.config.protocol = "mqtt" then .ok message.content
  else packMessage s.waveCfgItems message

/-- Send the front of the queue, then drop it.  A failure is only logged. -/
def sendMessageFromQueue (s : SendingNode) : Except Fault Unit × SendingNode :=
  match s.sendMsgQueue with
  | [] => (.ok (), s)
  | front :: _ =>
      match s.sendV2xMessage send front with
      | (.ok _, sent) => (.ok (), { sent with sendMsgQueue := sent.sendMsgQueue.tail })
      | (.error fault, sent) => (.error fault, sent)

def onOutboundMessage (s : SendingNode) (message : ByteArrayMsg) :
    Except Fault Unit × SendingNode :=
  if ¬ connected then (.ok (), s)
  else
    match s.messageContent message with
    | .error fault => (.error fault, s)
    | .ok content =>
        { s with sendMsgQueue := s.sendMsgQueue ++ [content] }.sendMessageFromQueue send

/-- `sendMessageSrv` and the `error_status` it answers with. -/
def sendMessageSrv (s : SendingNode) (message : ByteArrayMsg) : Except Fault Nat × SendingNode :=
  if ¬ connected then (.ok 1, s)
  else
    match s.messageContent message with
    | .error fault => (.error fault, s)
    | .ok content =>
        match s.sendV2xMessage send content with
        | (.ok success, sent) => (.ok (if success then 0 else 1), sent)
        | (.error fault, sent) => (.error fault, sent)

end SendingNode

/-! ## The entry of a message -/

section WaveItem

variable {items : List WaveConfigStruct} {message : ByteArrayMsg}

/-- Some entry has the message's type for its name. -/
def KnownType (items : List WaveConfigStruct) (message : ByteArrayMsg) : Prop :=
  ∃ entry ∈ items, entry.name = message.messageType

instance (items : List WaveConfigStruct) (message : ByteArrayMsg) :
    Decidable (KnownType items message) :=
  inferInstanceAs (Decidable (∃ entry ∈ items, _))

/-- The entry of a message: the first with its type for a name, or else a made-up one with the
value of the first two bytes. -/
def entryFor (items : List WaveConfigStruct) (message : ByteArrayMsg) : WaveConfigStruct :=
  (items.find? (·.name == message.messageType)).getD
    (defaultWaveItem message.messageType (headWord message.content))

theorem knownType_iff :
    KnownType items message ↔ (items.find? (·.name == message.messageType)).isSome = true := by
  simp [KnownType]

/-- The two bytes are there, or they are not asked for. -/
theorem waveItem_of_enough (enough : KnownType items message ∨ 2 ≤ message.content.length) :
    waveItem items message = .ok (entryFor items message) := by
  unfold waveItem entryFor
  cases found : items.find? (·.name == message.messageType) with
  | some entry => rfl
  | none =>
      have long : 2 ≤ message.content.length := by
        rcases enough with known | long
        · rw [knownType_iff, found] at known
          cases known
        · exact long
      simp only [wordAt_of_lt (show 0 + 1 < message.content.length by omega), List.drop_zero]
      rfl

/-- Short of two bytes, the entry of an unknown type reads past the end of the content. -/
theorem waveItem_of_short (unknown : ¬ KnownType items message)
    (short : message.content.length < 2) : waveItem items message = .error .badAccess := by
  rw [knownType_iff, Option.not_isSome_iff_eq_none] at unknown
  unfold waveItem
  rw [unknown, wordAt_of_le (by omega)]
  rfl

theorem packMessage_of_enough (enough : KnownType items message ∨ 2 ≤ message.content.length) :
    packMessage items message =
      .ok (unlines newline (waveLines (entryFor items message) message.content)) := by
  unfold packMessage
  rw [waveItem_of_enough enough]
  rfl

theorem packMessage_of_short (unknown : ¬ KnownType items message)
    (short : message.content.length < 2) : packMessage items message = .error .badAccess := by
  unfold packMessage
  rw [waveItem_of_short unknown short]
  rfl

end WaveItem

end V2xRosDriver.Driver
