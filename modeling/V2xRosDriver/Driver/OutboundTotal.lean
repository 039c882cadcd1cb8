/-
# Driver.OutboundTotal -- what keeps a message from being sent at all

Two handlers, two transports.  MQTT refuses a content of less than two bytes before it
reads the DSRCmsgID in it; UDP has any content packed, and the entry made up for a type
without one reads the same two bytes unasked.  With psids that can be read nothing else
keeps a handler from returning (`handlers_total_iff`).
-/
import V2xRosDriver.Driver.Outbound
import V2xRosDriver.Mqtt.PsidStrings

namespace V2xRosDriver.Driver

set_option autoImplicit false

open V2xRosDriver.Theory.Numerals
open V2xRosDriver.Radio
open V2xRosDriver.Mqtt

/-! ## The client returns -/

section Client

variable {files : WaveFiles} {table : List WaveConfigStruct}

/-- The string a message is routed by is its psid, or its raw id. -/
theorem topicReadable_route (valid : ∀ entry ∈ table, Readable entry.psid) (hi lo : UInt8) :
    TopicReadable (route table (word hi lo)) := by
  unfold route
  split
  · exact topicReadable_raw hi lo
  · rename_i named
    unfold firstPsid at named ⊢
    cases found : table.find? (·.dsrcMsgId == toString (word hi lo)) with
    | some entry => exact Or.inr (valid entry (List.mem_of_find?_eq_some found))
    | none =>
        simp only [found] at named
        exact absurd rfl named

/-- With readable psids `sendV2xMessage` returns on either transport. -/
theorem sendV2xMessage_returns {r : RadioClient} (provided : Provided files table r.base)
    (valid : ∀ entry ∈ table, Readable entry.psid) (accepted : Bool) (message : List UInt8) :
    ∃ success, r.sendV2xMessage accepted message = .ok success := by
  cases r with
  | udp calls => exact ⟨_, rfl⟩
  | mqtt calls =>
      have returns : SendReturns calls.client message := by
        rw [sendReturns_iff provided]
        intro _ _ long _
        match message, long with
        | hi :: lo :: _, _ => exact topicReadable_route valid hi lo
      obtain ⟨sent, returned⟩ := returns accepted
      refine ⟨sent.2, ?_⟩
      simp only [RadioClient.sendV2xMessage, returned]
      rfl

end Client

/-! ## The handlers return -/

section Handlers

variable {connected : Bool} {send : List UInt8 → Except Fault Bool} {s : SendingNode}
  {message : ByteArrayMsg}

/-- Sending from the queue returns where `sendV2xMessage` does, whatever the queue holds. -/
theorem sendMessageFromQueue_returns (returns : ∀ buffer, ∃ success, send buffer = .ok success)
    (s : SendingNode) : (s.sendMessageFromQueue send).1 = .ok () := by
  unfold SendingNode.sendMessageFromQueue
  cases s.sendMsgQueue with
  | nil => rfl
  | cons front rest =>
      obtain ⟨success, sent⟩ := returns front
      simp only [SendingNode.sendV2xMessage, sent]

theorem messageContent_ok (enough : s.config.protocol = "mqtt" ∨
    KnownType s.waveCfgItems message ∨ 2 ≤ message.content.length) :
    ∃ content, s.messageContent message = .ok content := by
  unfold SendingNode.messageContent
  split
  · exact ⟨_, rfl⟩
  · rename_i text
    exact ⟨_, packMessage_of_enough (enough.resolve_left text)⟩

theorem messageContent_error (text : s.config.protocol ≠ "mqtt")
    (unknown : ¬ KnownType s.waveCfgItems message) (short : message.content.length < 2) :
    s.messageContent message = .error .badAccess := by
  rw [SendingNode.messageContent, if_neg text, packMessage_of_short unknown short]

/-- Both handlers return, and the service answers 0 exactly when the client was connected and
its `sendV2xMessage` returned true. -/
structure Completes (connected : Bool) (send : List UInt8 → Except Fault Bool) (s : SendingNode)
    (message : ByteArrayMsg) : Prop where
  topic : (s.onOutboundMessage connected send message).1 = .ok ()
  service : ∃ status, (s.sendMessageSrv connected send message).1 = .ok status ∧
    (status = 0 ↔ connected = true ∧
      ∃ call, (s.sendMessageSrv connected send message).2.sendCalls = s.sendCalls ++ [call] ∧
        call.result = .ok true)

/-- Not connected, both return at once. -/
theorem completes_of_disconnected : Completes false send s message where
  topic := rfl
  service := ⟨1, rfl, by simp⟩

/-- A message that has a content to send is sent. -/
theorem completes_of_content (returns : ∀ buffer, ∃ success, send buffer = .ok success)
    {content : List UInt8} (packed : s.messageContent message = .ok content) :
    Completes true send s message where
  topic := by
    simp only [SendingNode.onOutboundMessage, packed]
    exact sendMessageFromQueue_returns returns _
  service := by
    obtain ⟨success, sent⟩ := returns content
    refine ⟨if success then 0 else 1, ?_, ?_⟩
    · simp only [SendingNode.sendMessageSrv, packed, SendingNode.sendV2xMessage, sent]
      rfl
    · simp only [SendingNode.sendMessageSrv, packed, SendingNode.sendV2xMessage, sent]
      cases success <;> simp

/-- **Exactly when the outbound path is total.**  For psids that can be read, a client that may
change between the two calls of a handler, and any queue, both handlers return with the right
status if and only if the node is not connected, or sends raw content, or knows the type of the
message, or the content has two bytes to make an entry of. -/
theorem handlers_total_iff {files : WaveFiles} {table : List WaveConfigStruct}
    {before after : RadioClient} (provided : Provided files table after.base)
    (valid : ∀ entry ∈ table, Readable entry.psid) (accepted : Bool) (s : SendingNode)
    (message : ByteArrayMsg) :
    Completes before.connected (after.sendV2xMessage accepted) s message ↔
      (before.connected = true → s.config.protocol ≠ "mqtt" →
        KnownType s.waveCfgItems message ∨ 2 ≤ message.content.length) := by
  have returns := sendV2xMessage_returns provided valid accepted
  cases before.connected with
  | false => exact iff_of_true completes_of_disconnected (by simp)
  | true =>
      by_cases enough : s.config.protocol = "mqtt" ∨
          KnownType s.waveCfgItems message ∨ 2 ≤ message.content.length
      · obtain ⟨content, packed⟩ := messageContent_ok enough
        exact iff_of_true (completes_of_content returns packed)
          fun _ text => enough.resolve_left text
      · rw [not_or, not_or, Nat.not_le] at enough
        obtain ⟨text, unknown, short⟩ := enough
        have fails := messageContent_error text unknown short
        refine iff_of_false (fun completes => ?_) fun holds => ?_
        · have returned := completes.topic
          simp [SendingNode.onOutboundMessage, fails] at returned
        · rcases holds rfl text with known | long
          · exact unknown known
          · omega

/-- A UDP client that is running. -/
def runningClient : RadioClient := .udp { client := { running := true } }

/-- A node of the default configuration with the installed table and an empty content of a
known type. -/
theorem empty_bsm_completes_iff :
    Completes runningClient.connected ((RadioClient.udp { client := {
        toBaseRadioClient := shippedClient, running := true } }).sendV2xMessage true)
      { waveCfgItems := waveJson } ⟨"BSM", []⟩ ↔
      (runningClient.connected = true → ({} : Config).protocol ≠ "mqtt" →
        KnownType waveJson ⟨"BSM", []⟩ ∨ 2 ≤ ([] : List UInt8).length) :=
  handlers_total_iff (show Provided shippedFiles waveJson shippedClient from Or.inl shipped_loaded)
    (fun entry member => readable_of_numeral
      ((show ∀ entry ∈ waveJson, IsNumeral entry.psid by decide) entry member))
    true { waveCfgItems := waveJson } ⟨"BSM", []⟩

/-- An empty message of an unknown type, and a byte is read that is not there. -/
theorem empty_unknown_reads_past_end :
    (SendingNode.onOutboundMessage true (runningClient.sendV2xMessage true)
        { waveCfgItems := waveJson } ⟨"Unlisted", []⟩).1 = .error .badAccess ∧
      (SendingNode.sendMessageSrv true (runningClient.sendV2xMessage true)
        { waveCfgItems := waveJson } ⟨"Unlisted", []⟩).1 = .error .badAccess ∧
      runningClient.connected = true := by
  decide

end Handlers

end V2xRosDriver.Driver
