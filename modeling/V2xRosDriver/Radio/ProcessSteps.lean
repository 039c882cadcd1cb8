/-
# Radio.ProcessSteps -- `process` one step at a time

The receive thread is inside `process` while other threads go on: the path of the wave
file may be set between two iterations of the scan, and the node may connect its handler
just before a signal is raised.  `processStep` is `process` from one of these points to
the next; left alone its steps compute `process` (`exec_remaining`).

A client told of one file knows only DSRCmsgIDs of that file, whenever it loads it
(`Learned`), and raises no other.
-/
import V2xRosDriver.Radio.Scanner
import V2xRosDriver.Theory.Transition

namespace V2xRosDriver.Radio

set_option autoImplicit false

open V2xRosDriver.Theory.Numerals
open V2xRosDriver.Theory.Transition

/-! ## Steps -/

/-- Where a call of `process` stands: at the head of its loop, behind a known DSRCmsgID, or
before its signal.  `left` counts the iterations behind this one. -/
inductive ProcessPc where
  | loop (index left : Nat)
  | known (index left msgId : Nat)
  | raise (message : List UInt8) (id : Nat)
  deriving DecidableEq, Repr

/-- Where `process` begins, if it does anything with the datagram. -/
def ProcessPc.start (data : List UInt8) : Option ProcessPc :=
  if data.isEmpty ∨ data.length < 3 then none else some (.loop 0 (data.length - 3))

/-- One step of `process` on the datagram `entry`. -/
def processStep (files : WaveFiles) (entry : List UInt8) :
    ProcessPc → ClientM (Progress ProcessPc Unit)
  | .loop _ 0 => return .returned ()
  | .loop i (n + 1) => do
      let msgId ← MonadExcept.ofExcept (wordAt entry i)
      if !(← isValidMsgID files (toString msgId)) then return .goes (.loop (i + 1) n)
      else return .goes (.known i n msgId)
  | .known i n msgId =>
      if entry.length ≤ i + shortFrame then return .returned ()
      else do
        let msgVec ← MonadExcept.ofExcept (sliceFrom entry i)
        if 16383 < msgVec.length then return .returned ()
        else if !(← MonadExcept.ofExcept (isValidMsgSize msgVec i entry)) then
          return .goes (.loop (i + 1) n)
        else if ← shouldProcess files msgId i entry then return .goes (.raise msgVec msgId)
        else return .goes (.loop (i + 1) n)
  | .raise message id => do
      raise message id
      return .returned ()

/-- What is left of a call of `process`. -/
def remaining (files : WaveFiles) (entry : List UInt8) : ProcessPc → ClientM Unit
  | .loop i n => processLoop files entry n i
  | .known i n msgId =>
      if entry.length ≤ i + shortFrame then return ()
      else do
        let msgVec ← MonadExcept.ofExcept (sliceFrom entry i)
        if 16383 < msgVec.length then return ()
        else if !(← MonadExcept.ofExcept (isValidMsgSize msgVec i entry)) then
          processLoop files entry n (i + 1)
        else if ← shouldProcess files msgId i entry then raise msgVec msgId
        else processLoop files entry n (i + 1)
  | .raise message id => raise message id

section Steps

variable {files : WaveFiles} {entry : List UInt8} {c : BaseRadioClient}

/-- How a call ends of which one step has been made. -/
def afterStep (files : WaveFiles) (entry : List UInt8) :
    Except Fault (Progress ProcessPc Unit) × BaseRadioClient → Except Fault Unit × BaseRadioClient
  | (.ok (.goes next), c) => exec (remaining files entry next) c
  | (.ok (.returned ()), c) => (.ok (), c)
  | (.error fault, c) => (.error fault, c)

/-- `process` is all its steps. -/
theorem process_remaining (data : List UInt8) :
    exec (process files data) c =
      match ProcessPc.start data with
      | some pc => exec (remaining files data pc) c
      | none => (.ok (), c) := by
  rw [process, ProcessPc.start]
  split <;> rfl

/-- What is left of a call is its next step and what is left then. -/
theorem exec_remaining (pc : ProcessPc) :
    exec (remaining files entry pc) c =
      afterStep files entry (exec (processStep files entry pc) c) := by
  cases pc with
  | loop i n =>
      cases n with
      | zero => rfl
      | succ n =>
          simp only [remaining, processLoop, processStep, exec_bind, exec_ofExcept]
          cases wordAt entry i with
          | error fault => rfl
          | ok msgId =>
              simp only
              rcases exec (isValidMsgID files (toString msgId)) c with ⟨fault | valid, d⟩
              · rfl
              · cases valid <;> rfl
  | known i n msgId =>
      simp only [remaining, processStep]
      split
      · rfl
      · simp only [exec_bind, exec_ofExcept]
        cases sliceFrom entry i with
        | error fault => rfl
        | ok msgVec =>
            simp only
            split
            · rfl
            · simp only [exec_bind, exec_ofExcept]
              cases isValidMsgSize msgVec i entry with
              | error fault => rfl
              | ok consistent =>
                  cases consistent with
                  | false => rfl
                  | true =>
                      simp only [Bool.not_true, Bool.false_eq_true, if_false, exec_bind]
                      rcases exec (shouldProcess files msgId i entry) c with ⟨fault | raises, d⟩
                      · rfl
                      · cases raises <;> rfl
  | raise message id => rfl

end Steps

/-! ## What a client learns -/

/-- The client has no DSRCmsgID but those of the entries, and no file but theirs. -/
structure Learned (entries : List WaveConfigStruct) (path : String) (c : BaseRadioClient) :
    Prop where
  ids : ∀ id ∈ c.waveCfgDsrcMsgIds, id ∈ entries.map (·.dsrcMsgId)
  file : c.waveFilePath.isEmpty = true ∨ c.waveFilePath = path

/-- The DSRCmsgID a call has found is one of the entries. -/
def ProcessPc.Named (entries : List WaveConfigStruct) : ProcessPc → Prop
  | .loop _ _ => True
  | .known _ _ id | .raise _ id => toString id ∈ entries.map (·.dsrcMsgId)

section Learned

variable {files : WaveFiles} {entries : List WaveConfigStruct} {path : String}
  {c : BaseRadioClient}

theorem Learned.load (learned : Learned entries path c) (valid : files path = .accepted entries)
    (named : c.waveFilePath.isEmpty = false) :
    Learned entries path { c with
      waveCfgDsrcMsgIds := c.waveCfgDsrcMsgIds ++
        (files c.waveFilePath).entries.map (·.dsrcMsgId)
      waveCfgPsids := c.waveCfgPsids ++ (files c.waveFilePath).entries.map (·.psid) } := by
  have same : c.waveFilePath = path := learned.file.resolve_left (by simp [named])
  refine ⟨fun id known => ?_, learned.file⟩
  rcases List.mem_append.mp known with before | loaded
  · exact learned.ids id before
  · rw [same, valid] at loaded
    exact loaded

theorem Learned.isValidMsgID (learned : Learned entries path c)
    (valid : files path = .accepted entries) (msgId : String) :
    Learned entries path (exec (isValidMsgID files msgId) c).2 ∧
      ((exec (isValidMsgID files msgId) c).1 = .ok true →
        msgId ∈ entries.map (·.dsrcMsgId)) := by
  have known {d : BaseRadioClient} (learned : Learned entries path d)
      (found : (Except.ok (d.waveCfgDsrcMsgIds.any (msgId == ·)) : Except Fault Bool) =
        .ok true) : msgId ∈ entries.map (·.dsrcMsgId) := by
    obtain ⟨id, among, same⟩ := List.any_eq_true.mp (Except.ok.inj found)
    rw [beq_iff_eq.mp same]
    exact learned.ids id among
  simp only [Radio.isValidMsgID, exec_bind, exec_get]
  split
  · simp only [exec_bind, exec_get]
    split
    · exact ⟨learned, fun found => by cases found⟩
    · rename_i named
      have loaded := learned.load valid (Bool.not_eq_true _ ▸ named)
      simp only [exec_bind, exec_get, exec_loadWaveConfigIds]
      exact ⟨loaded, known loaded⟩
  · exact ⟨learned, known learned⟩

theorem Learned.shouldProcess (learned : Learned entries path c)
    (valid : files path = .accepted entries) (msgId startIndex : Nat) (entry : List UInt8) :
    Learned entries path (exec (shouldProcess files msgId startIndex entry) c).2 := by
  have possible : Learned entries path (exec (isPossiblePSID files (toString msgId)) c).2 := by
    simp only [isPossiblePSID, exec_bind, exec_get]
    split
    · simp only [exec_bind, exec_get]
      split
      · exact learned
      · rename_i named
        have loaded := learned.load valid (Bool.not_eq_true _ ▸ named)
        simp only [exec_bind, exec_get, exec_loadWaveConfigIds, exec_ofExcept]
        exact loaded
    · simp only [exec_bind, exec_get, exec_ofExcept]
      exact learned
  simp only [Radio.shouldProcess, exec_bind]
  rcases ran : exec (isPossiblePSID files (toString msgId)) c with ⟨fault | found, d⟩
  · rw [ran] at possible
    exact possible
  · rw [ran] at possible
    cases found with
    | false => exact possible
    | true =>
        simp only [if_true, exec_bind, exec_ofExcept]
        cases isValidMsgAssumingBSMPSID startIndex entry <;> exact possible

/-- One step of `process` learns from the file alone, and finds only what the client has
learned. -/
theorem Learned.processStep (learned : Learned entries path c)
    (valid : files path = .accepted entries) (entry : List UInt8) {pc : ProcessPc}
    (named : pc.Named entries) :
    Learned entries path (exec (processStep files entry pc) c).2 ∧
      ∀ next, (exec (processStep files entry pc) c).1 = .ok (.goes next) →
        next.Named entries := by
  cases pc with
  | loop i n =>
      cases n with
      | zero => exact ⟨learned, fun _ goes => by cases goes⟩
      | succ n =>
          simp only [Radio.processStep, exec_bind, exec_ofExcept]
          cases wordAt entry i with
          | error fault => exact ⟨learned, fun _ goes => by cases goes⟩
          | ok msgId =>
              obtain ⟨after, known⟩ := learned.isValidMsgID valid (toString msgId)
              simp only
              rcases ran : exec (Radio.isValidMsgID files (toString msgId)) c with
                ⟨fault | found, d⟩
              · rw [ran] at after
                exact ⟨after, fun _ goes => by cases goes⟩
              · rw [ran] at after known
                cases found with
                | false =>
                    refine ⟨after, fun next goes => ?_⟩
                    cases goes
                    trivial
                | true =>
                    refine ⟨after, fun next goes => ?_⟩
                    cases goes
                    exact known rfl
  | known i n msgId =>
      simp only [Radio.processStep]
      split
      · exact ⟨learned, fun _ goes => by cases goes⟩
      · simp only [exec_bind, exec_ofExcept]
        cases sliceFrom entry i with
        | error fault => exact ⟨learned, fun _ goes => by cases goes⟩
        | ok msgVec =>
            simp only
            split
            · exact ⟨learned, fun _ goes => by cases goes⟩
            · simp only [exec_bind, exec_ofExcept]
              cases isValidMsgSize msgVec i entry with
              | error fault => exact ⟨learned, fun _ goes => by cases goes⟩
              | ok consistent =>
                  cases consistent with
                  | false =>
                      refine ⟨learned, fun next goes => ?_⟩
                      cases goes
                      trivial
                  | true =>
                      have after := learned.shouldProcess valid msgId i entry
                      simp only [Bool.not_true, Bool.false_eq_true, if_false, exec_bind]
                      rcases ran : exec (Radio.shouldProcess files msgId i entry) c with
                        ⟨fault | raises, d⟩
                      · rw [ran] at after
                        exact ⟨after, fun _ goes => by cases goes⟩
                      · rw [ran] at after
                        cases raises with
                        | false =>
                            refine ⟨after, fun next goes => ?_⟩
                            cases goes
                            trivial
                        | true =>
                            refine ⟨after, fun next goes => ?_⟩
                            cases goes
                            exact named
  | raise message id => exact ⟨⟨learned.ids, learned.file⟩, fun _ goes => by cases goes⟩

end Learned

end V2xRosDriver.Radio
