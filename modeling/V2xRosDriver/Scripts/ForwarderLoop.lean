/-
# Scripts.ForwarderLoop -- what the Python forwarder prints and forwards

The main loop of `v2x_decoder_forwarder.py`, one statement that can fail or be interrupted a
step.  The MessageFrame is one object for all datagrams, with whatever the last decode left in
it; decoder and encoder are those of the package, a parameter here.  Ctrl+C may come between
any two steps, `sendto` may fail at any message, and a datagram is cut to the receive size.

Of all that arrives nothing is decoded twice, out of order or with what an earlier datagram left
behind: the messages that were printed, and the one at most that is in hand, are what the
datagrams received decode to one by one, and what was forwarded are those of them whose
`sendto` did not fail, each failure reported behind its message (`forwarded_in_order`).
-/
import V2xRosDriver.Scripts.Forwarder
import V2xRosDriver.Theory.Transition

namespace V2xRosDriver.Scripts

set_option autoImplicit false

open V2xRosDriver.Theory.Transition

universe u

/-! ## The decoder -/

/-- The `MessageFrame` of the J2735 package: `from_uper` says whether it did not raise, `to_jer`
gives the text unless it raises. -/
structure MessageFrame (σ : Type u) where
  cached : σ
  fromUper : σ → List UInt8 → Bool × σ
  toJer : σ → Option String × σ

namespace MessageFrame

variable {σ : Type u} (frame : MessageFrame σ)

/-- The text of a payload, decoded into an object. -/
def decode (object : σ) (payload : List UInt8) : Option String :=
  match frame.fromUper object payload with
  | (true, decoded) => (frame.toJer decoded).1
  | (false, _) => none

/-- A payload decodes to the same text whatever the object held before. -/
def Memoryless : Prop :=
  ∀ object other payload, frame.decode object payload = frame.decode other payload

/-- The text of a datagram. -/
def reading (data : List UInt8) : Option String :=
  (grabPayload data).bind (frame.decode frame.cached)

end MessageFrame

/-! ## The loop -/

def recvfromSize : Nat := 16384

structure Args where
  ip : String := "0.0.0.0"
  port : Nat := 5398
  fwdIp : String := "127.0.0.1"
  fwdPort : Nat := 5400
  deriving DecidableEq, Repr

def waiting (args : Args) : String :=
  "Waiting for data at " ++ args.ip ++ ":" ++ toString args.port ++ "..."

def errorForwarding (e : String) : String := "Error forwarding JSON: " ++ e

def keyboardInterrupt : String := "\nKeyboard interrupt, shutting down"

/-- A datagram of `forward_sock`. -/
structure Forwarded where
  data : ByteArray
  ip : String
  port : Nat
  deriving DecidableEq

/-- `forward_sock.sendto (decoded_msg.encode (), (args.fwd_ip, args.fwd_port))`. -/
def sendto (args : Args) (decodedMsg : String) : Forwarded :=
  ⟨decodedMsg.toUTF8, args.fwdIp, args.fwdPort⟩

/-- The statement to come, with the locals that are still read. -/
inductive LoopPc where
  | bind
  | recvfrom
  | grabPayload (data : List UInt8)
  | fromUper (payload : List UInt8)
  | toJer (payload : List UInt8)
  | print (decodedMsg : String)
  | sendto (decodedMsg : String)
  | printError (decodedMsg e : String)
  | left
  deriving DecidableEq

/-- The script, with the datagrams `recvfrom` has returned. -/
structure ForwarderLoop (σ : Type u) where
  messageFrame : σ
  pc : LoopPc := .bind
  stdout : List String
  received : List (List UInt8) := []
  forwarded : List Forwarded := []

namespace ForwarderLoop

/-- A step is taken, raises, or is interrupted; `recvfrom` returns a datagram or times out. -/
inductive Action where
  | proceeds
  | datagram (data : List UInt8)
  | timeout
  | raises (e : String)
  | interrupt
  deriving DecidableEq

variable {σ : Type u}

/-- What `from_uper` and `to_jer` raise is caught, and so is what `sendto` raises.  An exception of
`bind`, of `recvfrom` other than its timeout, or of `print` ends the script. -/
def step (frame : MessageFrame σ) (args : Args) (s : ForwarderLoop σ) :
    Action → Option (ForwarderLoop σ)
  | .proceeds =>
      match s.pc with
      | .bind => some { s with pc := .recvfrom }
      | .grabPayload data =>
          match grabPayload data with
          | some (first :: rest) => some { s with pc := .fromUper (first :: rest) }
          | _ => some { s with pc := .recvfrom }
      | .fromUper payload =>
          match frame.fromUper s.messageFrame payload with
          | (true, decoded) => some { s with messageFrame := decoded, pc := .toJer payload }
          | (false, partly) => some { s with messageFrame := partly, pc := .recvfrom }
      | .toJer _ =>
          match frame.toJer s.messageFrame with
          | (some decodedMsg, encoded) =>
              some { s with messageFrame := encoded, pc := .print decodedMsg }
          | (none, partly) => some { s with messageFrame := partly, pc := .recvfrom }
      | .print decodedMsg =>
          some { s with stdout := s.stdout ++ [decodedMsg], pc := .sendto decodedMsg }
      | .sendto decodedMsg =>
          some { s with
            forwarded := s.forwarded ++ [Scripts.sendto args decodedMsg]
            pc := .recvfrom }
      | .printError _ e =>
          some { s with stdout := s.stdout ++ [errorForwarding e], pc := .recvfrom }
      | .recvfrom | .left => none
  | .datagram data =>
      match s.pc with
      | .recvfrom => some { s with
          received := s.received ++ [data.take recvfromSize]
          pc := .grabPayload (data.take recvfromSize) }
      | _ => none
  | .timeout =>
      match s.pc with
      | .recvfrom => some s
      | _ => none
  | .raises e =>
      match s.pc with
      | .sendto decodedMsg => some { s with pc := .printError decodedMsg e }
      | .bind | .recvfrom | .print _ | .printError _ _ => some { s with pc := .left }
      | _ => none
  | .interrupt =>
      match s.pc with
      | .bind => some { s with pc := .left }
      | .left => none
      | _ => some { s with stdout := s.stdout ++ [keyboardInterrupt], pc := .left }

def system (frame : MessageFrame σ) (args : Args) : System (ForwarderLoop σ) Action where
  start s := s = { messageFrame := frame.cached, stdout := [waiting args] }
  step := step frame args

/-! ## The books -/

/-- A message and what its `sendto` raised. -/
abbrev Outcome := String × Option String

/-- The lines of a message. -/
def lines : Outcome → List String
  | (decodedMsg, none) => [decodedMsg]
  | (decodedMsg, some e) => [decodedMsg, errorForwarding e]

/-- What is forwarded of a message. -/
def sent (args : Args) : Outcome → Option Forwarded
  | (decodedMsg, none) => some (Scripts.sendto args decodedMsg)
  | (_, some _) => none

/-- The message in hand. -/
def inHand (frame : MessageFrame σ) : LoopPc → List String
  | .grabPayload data => (frame.reading data).toList
  | .fromUper payload | .toJer payload => (frame.decode frame.cached payload).toList
  | .print decodedMsg | .sendto decodedMsg | .printError decodedMsg _ => [decodedMsg]
  | .bind | .recvfrom | .left => []

/-- What of it is printed. -/
def shown : LoopPc → List String
  | .sendto decodedMsg | .printError decodedMsg _ => [decodedMsg]
  | _ => []

/-- The books close on these outcomes, but for a message in hand, the lines it has printed and
those behind them. -/
structure Settled (frame : MessageFrame σ) (args : Args) (s : ForwarderLoop σ)
    (outcomes : List Outcome) (held seen closing : List String) : Prop where
  decoded : s.received.filterMap frame.reading = outcomes.map Prod.fst ++ held
  forwarded : s.forwarded = outcomes.filterMap (sent args)
  printed : s.stdout = waiting args :: (outcomes.flatMap lines ++ (seen ++ closing))

/-- Before `to_jer` the object holds the payload. -/
def Holds (frame : MessageFrame σ) (s : ForwarderLoop σ) : Prop :=
  ∀ payload, s.pc = .toJer payload →
    (frame.toJer s.messageFrame).1 = frame.decode frame.cached payload

/-- The books of a script that runs, and of one that has left its loop: with the last message in
hand, printed or not, and with the line of an interrupt or without. -/
inductive Kept (frame : MessageFrame σ) (args : Args) (s : ForwarderLoop σ) : Prop
  | running (outcomes : List Outcome) (within : s.pc ≠ .left) (holds : Holds frame s)
      (settled : Settled frame args s outcomes (inHand frame s.pc) (shown s.pc) [])
  | left (outcomes : List Outcome) (held seen closing : List String) (gone : s.pc = .left)
      (short : held.length ≤ 1) (part : seen <+: held)
      (closes : closing = [] ∨ closing = [keyboardInterrupt])
      (settled : Settled frame args s outcomes held seen closing)

section Kept

variable {frame : MessageFrame σ} {args : Args} {s t : ForwarderLoop σ}

/-- A payload is not empty. -/
theorem grabPayload_ne_nil (data : List UInt8) : grabPayload data ≠ some [] := by
  intro extracted
  obtain ⟨id, among, found⟩ := List.exists_of_findSome?_eq_some extracted
  obtain ⟨i, at_, dropped⟩ := Option.map_eq_some_iff.mp found
  have occurs : id <+: data.drop i := (find_eq_some_iff.mp at_).2.1
  rw [dropped] at occurs
  obtain rfl := List.prefix_nil.mp occurs
  simp [msgIds] at among

theorem inHand_short (pc : LoopPc) : (inHand frame pc).length ≤ 1 := by
  have one (text : Option String) : text.toList.length ≤ 1 := by cases text <;> simp
  cases pc <;> first | exact one _ | simp [inHand]

theorem shown_of_inHand (pc : LoopPc) : shown pc <+: inHand frame pc := by
  cases pc with
  | sendto decodedMsg | printError decodedMsg e => exact List.prefix_rfl
  | _ => exact List.nil_prefix

/-- A decode into the object gives what a decode into a fresh one gives. -/
theorem decode_of_fromUper (memoryless : frame.Memoryless) {object after : σ} {good : Bool}
    {payload : List UInt8} (decoded : frame.fromUper object payload = (good, after)) :
    frame.decode frame.cached payload = if good then (frame.toJer after).1 else none := by
  rw [memoryless frame.cached object, MessageFrame.decode, decoded]
  cases good <;> rfl

/-- The books do not change with the object and the statement to come. -/
theorem Settled.moved {outcomes : List Outcome} {held seen closing : List String}
    (settled : Settled frame args s outcomes held seen closing) (object : σ) (pc : LoopPc) :
    Settled frame args { s with messageFrame := object, pc := pc } outcomes held seen closing :=
  ⟨settled.decoded, settled.forwarded, settled.printed⟩

/-- The loop is left. -/
theorem Kept.leave (kept : Kept frame args s) (within : s.pc ≠ .left) :
    Kept frame args { s with pc := .left } ∧
      Kept frame args { s with stdout := s.stdout ++ [keyboardInterrupt], pc := .left } := by
  cases kept with
  | left _ _ _ _ gone => exact absurd gone within
  | running outcomes _ _ settled =>
      have short := @inHand_short _ frame s.pc
      have part := @shown_of_inHand _ frame s.pc
      refine ⟨.left outcomes _ _ [] rfl short part (.inl rfl) (settled.moved s.messageFrame .left),
        .left outcomes _ _ [keyboardInterrupt] rfl short part (.inr rfl)
          ⟨settled.decoded, settled.forwarded, ?_⟩⟩
      simp [settled.printed]

/-- A step of the loop's own that keeps the datagrams received. -/
theorem Kept.proceeds (memoryless : frame.Memoryless) (kept : Kept frame args s)
    (taken : step frame args s .proceeds = some t) : Kept frame args t := by
  cases kept with
  | left _ _ _ _ gone =>
      simp only [step, gone] at taken
      cases taken
  | running outcomes _ holds settled =>
      -- the message in hand is counted when its last statement is done, or when there is none
      have closed {held : List String} (settled : Settled frame args s outcomes held [] [])
          (none : held = []) (object : σ) :
          Kept frame args { s with messageFrame := object, pc := .recvfrom } := by
        subst none
        exact .running outcomes LoopPc.noConfusion nofun (settled.moved object .recvfrom)
      cases at_ : s.pc with
      | recvfrom | left =>
          simp only [step, at_] at taken
          cases taken
      | bind =>
          simp only [step, at_, Option.some.injEq] at taken
          rw [at_] at settled
          exact taken ▸ closed settled rfl s.messageFrame
      | grabPayload data =>
          simp only [step, at_] at taken
          rw [at_] at settled
          split at taken
          · rename_i first rest extracted
            obtain rfl := Option.some.inj taken
            refine .running outcomes LoopPc.noConfusion nofun ?_
            have same : frame.reading data = frame.decode frame.cached (first :: rest) := by
              rw [MessageFrame.reading, extracted, Option.bind_some]
            simpa only [inHand, shown, same] using settled.moved s.messageFrame _
          · rename_i notSome
            obtain rfl := Option.some.inj taken
            refine closed settled ?_ s.messageFrame
            cases extracted : grabPayload data with
            | none => simp [inHand, MessageFrame.reading, extracted]
            | some payload =>
                cases payload with
                | nil => exact absurd extracted (grabPayload_ne_nil data)
                | cons first rest => exact absurd extracted (notSome first rest)
      | fromUper payload =>
          simp only [step, at_] at taken
          rw [at_] at settled
          split at taken
          · rename_i after decoded
            obtain rfl := Option.some.inj taken
            refine .running outcomes LoopPc.noConfusion ?_ (settled.moved after (.toJer payload))
            rintro _ same
            cases same
            exact (decode_of_fromUper memoryless decoded).symm
          · rename_i after decoded
            obtain rfl := Option.some.inj taken
            refine closed settled ?_ after
            simp [inHand, decode_of_fromUper memoryless decoded]
      | toJer payload =>
          have text := holds payload at_
          simp only [step, at_] at taken
          rw [at_] at settled
          split at taken
          · rename_i decodedMsg after encoded
            obtain rfl := Option.some.inj taken
            refine .running outcomes LoopPc.noConfusion nofun ?_
            have same : frame.decode frame.cached payload = some decodedMsg := by
              rw [← text, encoded]
            simpa only [inHand, shown, same, Option.toList_some] using settled.moved after _
          · rename_i after encoded
            obtain rfl := Option.some.inj taken
            refine closed settled ?_ after
            simp [inHand, ← text, encoded]
      | print decodedMsg =>
          simp only [step, at_, Option.some.injEq] at taken
          rw [at_] at settled
          obtain rfl := taken
          refine .running outcomes LoopPc.noConfusion nofun
            ⟨settled.decoded, settled.forwarded, ?_⟩
          simp [settled.printed, shown]
      | sendto decodedMsg =>
          simp only [step, at_, Option.some.injEq] at taken
          rw [at_] at settled
          obtain rfl := taken
          refine .running (outcomes ++ [(decodedMsg, none)]) LoopPc.noConfusion nofun ⟨?_, ?_, ?_⟩
          · simp [settled.decoded, inHand]
          · simp [settled.forwarded, sent]
          · simp [settled.printed, shown, lines]
      | printError decodedMsg e =>
          simp only [step, at_, Option.some.injEq] at taken
          rw [at_] at settled
          obtain rfl := taken
          refine .running (outcomes ++ [(decodedMsg, some e)]) LoopPc.noConfusion nofun ⟨?_, ?_, ?_⟩
          · simp [settled.decoded, inHand]
          · simp [settled.forwarded, sent]
          · simp [settled.printed, shown, lines]

theorem Kept.step (memoryless : frame.Memoryless) (kept : Kept frame args s) {a : Action}
    (taken : ForwarderLoop.step frame args s a = some t) : Kept frame args t := by
  cases a with
  | proceeds => exact kept.proceeds memoryless taken
  | datagram data =>
      simp only [ForwarderLoop.step] at taken
      split at taken
      · rename_i at_
        obtain rfl := Option.some.inj taken
        cases kept with
        | left _ _ _ _ gone => exact absurd (at_.symm.trans gone) LoopPc.noConfusion
        | running outcomes _ _ settled =>
            rw [at_] at settled
            refine .running outcomes LoopPc.noConfusion nofun
              ⟨?_, settled.forwarded, settled.printed⟩
            have before : s.received.filterMap frame.reading = outcomes.map Prod.fst := by
              simpa [inHand] using settled.decoded
            rw [List.filterMap_append, before]
            cases read : frame.reading (data.take recvfromSize) <;> simp [inHand, read]
      · cases taken
  | timeout =>
      simp only [ForwarderLoop.step] at taken
      split at taken
      · exact Option.some.inj taken ▸ kept
      · cases taken
  | raises e =>
      have within : s.pc ≠ .left := by
        intro gone
        simp [ForwarderLoop.step, gone] at taken
      simp only [ForwarderLoop.step] at taken
      split at taken
      · rename_i decodedMsg at_
        obtain rfl := Option.some.inj taken
        cases kept with
        | left _ _ _ _ gone => exact absurd gone within
        | running outcomes _ _ settled =>
            rw [at_] at settled
            exact .running outcomes LoopPc.noConfusion nofun
              (settled.moved s.messageFrame (.printError decodedMsg e))
      · exact Option.some.inj taken ▸ (kept.leave within).1
      · exact Option.some.inj taken ▸ (kept.leave within).1
      · exact Option.some.inj taken ▸ (kept.leave within).1
      · exact Option.some.inj taken ▸ (kept.leave within).1
      · cases taken
  | interrupt =>
      simp only [ForwarderLoop.step] at taken
      split at taken
      · rename_i at_
        have within : s.pc ≠ .left := at_ ▸ LoopPc.noConfusion
        exact Option.some.inj taken ▸ (kept.leave within).1
      · cases taken
      · rename_i within
        exact Option.some.inj taken ▸ (kept.leave within).2

theorem kept_of_reachable (memoryless : frame.Memoryless)
    (reached : (system frame args).Reachable s) : Kept frame args s := by
  refine reached.invariant ?_ fun _ _ _ kept _ taken => kept.step memoryless taken
  rintro _ rfl
  exact .running [] LoopPc.noConfusion nofun ⟨rfl, rfl, rfl⟩

/-- **Every message once, in order.**  In every run of the script there are messages, each with what
its `sendto` raised, if anything, such that the datagrams received decode, one by one, to these
and to one more at most, which is in hand; forwarded are those whose `sendto` did not raise, and
printed is the greeting, each message with its error behind it, what the one in hand has printed
and the line of the interrupt.  While the script waits for a datagram nothing is in hand. -/
theorem forwarded_in_order (memoryless : frame.Memoryless)
    (reached : (system frame args).Reachable s) :
    ∃ (outcomes : List Outcome) (held seen closing : List String),
      held.length ≤ 1 ∧ seen <+: held ∧
      (closing = [] ∨ closing = [keyboardInterrupt]) ∧
      (s.pc = .recvfrom → held = [] ∧ closing = []) ∧
      s.received.filterMap frame.reading = outcomes.map Prod.fst ++ held ∧
      s.forwarded = outcomes.filterMap (sent args) ∧
      s.stdout = waiting args :: (outcomes.flatMap lines ++ (seen ++ closing)) := by
  cases kept_of_reachable memoryless reached with
  | running outcomes _ _ settled =>
      refine ⟨outcomes, _, _, [], inHand_short s.pc, shown_of_inHand s.pc, .inl rfl, ?_,
        settled.decoded, settled.forwarded, settled.printed⟩
      intro at_
      rw [at_]
      exact ⟨rfl, rfl⟩
  | left outcomes held seen closing gone short part closes settled =>
      refine ⟨outcomes, held, seen, closing, short, part, closes, ?_,
        settled.decoded, settled.forwarded, settled.printed⟩
      intro at_
      exact absurd (at_.symm.trans gone) LoopPc.noConfusion

/-- A decoder that asks for a value behind the message id, and keeps the id when there is none. -/
def idDecoder : MessageFrame (List UInt8) where
  cached := []
  fromUper _ payload := (decide (3 < payload.length), payload.take 2)
  toJer object := (some (toString object), object)

theorem idDecoder_memoryless : idDecoder.Memoryless := fun _ _ _ => rfl

/-- A BSM behind a header, a timeout, an SDSM whose `sendto` fails, a BSM that is cut off behind its
id, Ctrl+C. -/
def failsOnce : List Action :=
  [.proceeds, .datagram [0xff, 0x00, 0x14, 0x01, 0x00], .proceeds, .proceeds, .proceeds,
    .proceeds, .proceeds, .timeout, .datagram [0x00, 0x29, 0x01, 0x00], .proceeds, .proceeds,
    .proceeds, .proceeds, .raises "message too long", .proceeds, .datagram [0xff, 0x00, 0x14],
    .proceeds, .proceeds, .interrupt]

def interruptedLoop : ForwarderLoop (List UInt8) :=
  ((system idDecoder {}).run { messageFrame := [], stdout := [waiting {}] } failsOnce).getD
    { messageFrame := [], stdout := [] }

theorem interruptedLoop_in_order :
    interruptedLoop.received.filterMap idDecoder.reading = ["[0, 20]", "[0, 41]"] ∧
      interruptedLoop.forwarded = [sendto {} "[0, 20]"] ∧
      ∃ (outcomes : List Outcome) (held seen closing : List String),
        held.length ≤ 1 ∧ seen <+: held ∧
        (closing = [] ∨ closing = [keyboardInterrupt]) ∧
        (interruptedLoop.pc = .recvfrom → held = [] ∧ closing = []) ∧
        interruptedLoop.received.filterMap idDecoder.reading = outcomes.map Prod.fst ++ held ∧
        interruptedLoop.forwarded = outcomes.filterMap (sent {}) ∧
        interruptedLoop.stdout = waiting {} :: (outcomes.flatMap lines ++ (seen ++ closing)) := by
  have start : (system idDecoder {}).start { messageFrame := [], stdout := [waiting {}] } := rfl
  have succeeds : ((system idDecoder {}).run { messageFrame := [], stdout := [waiting {}] }
      failsOnce).isSome = true := by
    decide +kernel
  have reached : (system idDecoder {}).Reachable interruptedLoop :=
    System.reachable_getD (.start start) succeeds { messageFrame := [], stdout := [] }
  exact ⟨by decide +kernel, by decide +kernel, forwarded_in_order idDecoder_memoryless reached⟩

end Kept

end ForwarderLoop

end V2xRosDriver.Scripts
