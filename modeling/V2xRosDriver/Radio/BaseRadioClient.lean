/-
# Radio.BaseRadioClient -- the inbound scanner and the wave tables it reads

The functions of `BaseRadioClient` as the driver computes them.  A call runs in
`ClientM`: it reads and writes the client, and it may end in a `Fault`, either an
element access outside a vector (undefined behaviour in the source) or one of the
two exceptions of `std::stoi`.  The client is kept when a call faults, and every
`onMessageReceived` signal it raised before stays in the log.

Datagrams are byte lists, `size_t` is `Nat`, and the DSRCmsgID handed to
`onMessageReceived` is a number below 65536 (`Numerals.word_lt`), so its conversion
to `uint16_t` loses nothing.
-/
import V2xRosDriver.Radio.WaveConfig

namespace V2xRosDriver.Radio

set_option autoImplicit false

open V2xRosDriver.Theory.Numerals

/-- What keeps a call of the source from returning. -/
inductive Fault where
  | badAccess
  | stoi (error : StoiError)
  deriving DecidableEq, Repr

/-- The arguments of one `onMessageReceived` signal. -/
structure MessageReceived where
  message : List UInt8
  id : Nat
  deriving DecidableEq, Repr

/-- The signals that report a connection. -/
inductive ConnectionSignal where
  | onConnect
  | onDisconnect
  deriving DecidableEq, Repr

/-- The state of a `BaseRadioClient`; the last two fields log the signals it raised. -/
structure BaseRadioClient where
  waveCfgDsrcMsgIds : List String := []
  waveCfgPsids : List String := []
  waveFilePath : String := ""
  onMessageReceived : List MessageReceived := []
  connectionSignals : List ConnectionSignal := []
  deriving DecidableEq, Repr

/-- Why a `connect` call did not connect: it returned false, with the error code it set,
or an exception left it. -/
inductive ConnectFailure where
  | alreadyConnected
  | noMemory
  | connectionRefused
  | listenerFailed
  | thrown
  deriving DecidableEq, Repr

abbrev ConnectResult := Except ConnectFailure Unit

/-- The arguments of `connect`. -/
structure Endpoint where
  remoteAddress : String
  remotePort : UInt16
  localPort : UInt16
  deriving DecidableEq, Repr

/-- `onConnect()` or `onDisconnect()`. -/
def BaseRadioClient.signal (c : BaseRadioClient) (raised : ConnectionSignal) : BaseRadioClient :=
  { c with connectionSignals := c.connectionSignals ++ [raised] }

/-- Code of the client: it may fault, and what it did to the client stays done. -/
abbrev ClientM := ExceptT Fault (StateM BaseRadioClient)

/-- How a call ends and the client it leaves. -/
def exec {α : Type} (call : ClientM α) (c : BaseRadioClient) :
    Except Fault α × BaseRadioClient :=
  call.run.run c

section Exec

variable {α β : Type} (c : BaseRadioClient)

@[simp] theorem exec_pure (value : α) : exec (pure value) c = (.ok value, c) := rfl

@[simp] theorem exec_bind (call : ClientM α) (next : α → ClientM β) :
    exec (call >>= next) c =
      match exec call c with
      | (.ok value, c') => exec (next value) c'
      | (.error fault, c') => (.error fault, c') := by
  show (ExceptT.run (call >>= next)).run c = _
  unfold exec
  rw [ExceptT.run_bind]
  rcases ran : call.run.run c with ⟨_ | value, c'⟩ <;> simp only [StateT.run_bind, ran] <;> rfl

@[simp] theorem exec_get : exec get c = (.ok c, c) := rfl

@[simp] theorem exec_modify (change : BaseRadioClient → BaseRadioClient) :
    exec (modify change) c = (.ok (), change c) := rfl

@[simp] theorem exec_ofExcept (result : Except Fault α) :
    exec (MonadExcept.ofExcept result) c = (result, c) := by
  cases result <;> rfl

end Exec

/-- Frame overhead for payloads > 127 bytes (2-byte length + 2-byte DSRCmsgID). -/
def longFrame : Nat := 4

/-- Frame overhead for payloads < 128 bytes (1-byte length + 2-byte DSRCmsgID). -/
def shortFrame : Nat := 3

/-! ## Vector accesses -/

/-- `v[i]`. -/
def elementAt (v : List UInt8) (i : Nat) : Except Fault UInt8 :=
  match v[i]? with
  | some byte => .ok byte
  | none => .error .badAccess

/-- `std::vector (v.begin() + k, v.end())`. -/
def sliceFrom (v : List UInt8) (k : Nat) : Except Fault (List UInt8) :=
  if k ≤ v.length then .ok (v.drop k) else .error .badAccess

/-- `(static_cast<uint16_t>(v[i]) << 8) | static_cast<uint16_t>(v[i + 1])`. -/
def wordAt (v : List UInt8) (i : Nat) : Except Fault Nat := do
  let hi ← elementAt v i
  let lo ← elementAt v (i + 1)
  return word hi lo

/-! ## Message-size validation -/

def isValidMsgSize (msgVec : List UInt8) (startIndex : Nat) (entry : List UInt8) :
    Except Fault Bool :=
  if 127 < msgVec.length then do
    let longVec ← sliceFrom entry (startIndex + longFrame)
    let high ← elementAt msgVec 2
    let low ← elementAt msgVec 3
    let msgSize := ((high &&& 0x7F).toNat <<< 8) ||| low.toNat
    return msgSize == longVec.length
  else if msgVec.length < 128 ∧ 3 ≤ msgVec.length then do
    let shortVec ← sliceFrom entry (startIndex + shortFrame)
    let msgSize ← elementAt msgVec 2
    return msgSize.toNat == shortVec.length
  else return false

/-! ## PSID / DSRCmsgID checks -/

/-- The inner look-ahead: is 20, the BSM DSRCmsgID, one of the `n` words from `j` on? -/
def bsmMsgIdLoop (entry : List UInt8) : Nat → Nat → Except Fault Bool
  | 0, _ => return false
  | n + 1, j => do
      let possibleMsgId ← wordAt entry j
      if possibleMsgId == 20 then return true else bsmMsgIdLoop entry n (j + 1)

/-- The outer look-ahead: is 0x0380 among the `n` words from `i` on, 20 close behind it? -/
def bsmElementLoop (entry : List UInt8) : Nat → Nat → Except Fault Bool
  | 0, _ => return false
  | n + 1, i => do
      let elementId ← wordAt entry i
      if elementId == 896 then
        if ← bsmMsgIdLoop entry 6 i then return true else bsmElementLoop entry n (i + 1)
      else bsmElementLoop entry n (i + 1)

def isValidMsgAssumingBSMPSID (startIndex : Nat) (entry : List UInt8) : Except Fault Bool :=
  bsmElementLoop entry 6 startIndex

/-- The loop of `isPossiblePSID`: every psid up to the first match goes through `std::stoi`. -/
def psidLoop (msgId : String) : List String → Except Fault Bool
  | [] => return false
  | psid :: rest =>
      match stoi16 psid with
      | .error error => .error (.stoi error)
      | .ok psidValue => if msgId == toString psidValue then return true else psidLoop msgId rest

/-! ## Wave config loading -/

def setWaveFilePath (path : String) : ClientM Unit :=
  modify fun c => { c with waveFilePath := path }

/-- A file that cannot be opened, parsed or validated leaves both vectors alone. -/
def loadWaveConfigIds (files : WaveFiles) (fileName : String) : ClientM Unit :=
  match files fileName with
  | .accepted entries => modify fun c =>
      { c with
        waveCfgDsrcMsgIds := c.waveCfgDsrcMsgIds ++ entries.map (·.dsrcMsgId)
        waveCfgPsids := c.waveCfgPsids ++ entries.map (·.psid) }
  | _ => pure ()

def isValidMsgID (files : WaveFiles) (msgId : String) : ClientM Bool := do
  if (← get).waveCfgDsrcMsgIds.isEmpty then
    if (← get).waveFilePath.isEmpty then return false
    loadWaveConfigIds files (← get).waveFilePath
  return (← get).waveCfgDsrcMsgIds.any (msgId == ·)

def isPossiblePSID (files : WaveFiles) (msgId : String) : ClientM Bool := do
  if (← get).waveCfgPsids.isEmpty then
    if (← get).waveFilePath.isEmpty then return false
    loadWaveConfigIds files (← get).waveFilePath
  MonadExcept.ofExcept (psidLoop msgId (← get).waveCfgPsids)

/-- The PSID string of a decimal DSRCmsgID string, or the empty string. -/
def BaseRadioClient.psidForDsrcMsgId (c : BaseRadioClient) (dsrcMsgId : String) :
    Except Fault String :=
  match c.waveCfgDsrcMsgIds.findIdx? (· == dsrcMsgId) with
  | none => return ""
  | some i =>
      match c.waveCfgPsids[i]? with
      | some psid => return psid
      | none => .error .badAccess

/-! ## The scanner -/

/-- `shouldProcess`: `||` asks `isValidMsgAssumingBSMPSID` only about a possible PSID. -/
def shouldProcess (files : WaveFiles) (msgId startIndex : Nat) (entry : List UInt8) :
    ClientM Bool := do
  if ← isPossiblePSID files (toString msgId) then
    return !(← MonadExcept.ofExcept (isValidMsgAssumingBSMPSID startIndex entry))
  else return true

/-- Raise `onMessageReceived`. -/
def raise (message : List UInt8) (id : Nat) : ClientM Unit :=
  modify fun c => { c with onMessageReceived := c.onMessageReceived ++ [⟨message, id⟩] }

/-- The `for` loop of `process` with `n` iterations left, at index `i`. -/
def processLoop (files : WaveFiles) (entry : List UInt8) : Nat → Nat → ClientM Unit
  | 0, _ => return ()
  | n + 1, i => do
      let msgId ← MonadExcept.ofExcept (wordAt entry i)
      if !(← isValidMsgID files (toString msgId)) then processLoop files entry n (i + 1)
      else if entry.length ≤ i + shortFrame then return ()
      else do
        let msgVec ← MonadExcept.ofExcept (sliceFrom entry i)
        -- one length field cannot describe more; the loop is left, not continued
        if 16383 < msgVec.length then return ()
        else if !(← MonadExcept.ofExcept (isValidMsgSize msgVec i entry)) then
          processLoop files entry n (i + 1)
        else if ← shouldProcess files msgId i entry then raise msgVec msgId
        else processLoop files entry n (i + 1)

def process (files : WaveFiles) (data : List UInt8) : ClientM Unit :=
  if data.isEmpty ∨ data.length < 3 then return ()
  else processLoop files data (data.length - 3) 0

/-! ## What one call shows -/

/-- How `process` on `data` ends, from client `c`. -/
def ending (files : WaveFiles) (c : BaseRadioClient) (data : List UInt8) : Except Fault Unit :=
  (exec (process files data) c).1

/-- The client `process` on `data` leaves behind. -/
def after (files : WaveFiles) (c : BaseRadioClient) (data : List UInt8) : BaseRadioClient :=
  (exec (process files data) c).2

/-- The `onMessageReceived` signals of one `process` call. -/
def signals (files : WaveFiles) (c : BaseRadioClient) (data : List UInt8) :
    List MessageReceived :=
  (after files { c with onMessageReceived := [] } data).onMessageReceived

end V2xRosDriver.Radio
