/-
# Radio.InFlight -- a scan in flight

While `process` is somewhere in a datagram the rest of the driver goes on.  What the scan is
still to raise, left alone, is at most one message; its own steps do not change what that is
(`settledLog_goes`, `settledLog_stops`), and neither do the connection signals that other
threads raise on the client meanwhile (`settledLog_withSignals`).

A client looks into its file in the middle of a scan, so `Scans` is kept by every step: with
no path set nothing is loaded, with the path set the client has, or will find, the objects of
its file.
-/
import V2xRosDriver.Radio.ProcessSteps
import V2xRosDriver.Radio.Receiver

namespace V2xRosDriver.Radio

set_option autoImplicit false

open V2xRosDriver.Theory.Transition

/-! ## Calls that hear nothing of a connection -/

/-- The client with another log of connection signals. -/
def BaseRadioClient.withSignals (c : BaseRadioClient) (signals : List ConnectionSignal) :
    BaseRadioClient :=
  { c with connectionSignals := signals }

theorem BaseRadioClient.signal_eq (c : BaseRadioClient) (raised : ConnectionSignal) :
    c.signal raised = c.withSignals (c.connectionSignals ++ [raised]) := rfl

/-- A call that neither looks at the connection signals nor raises one. -/
def Deaf {α : Type} (call : ClientM α) : Prop :=
  ∀ c signals, exec call (c.withSignals signals) =
    ((exec call c).1, (exec call c).2.withSignals signals)

section Deaf

variable {α β : Type}

theorem deaf_pure (value : α) : Deaf (pure value) := fun _ _ => rfl

theorem deaf_ofExcept (result : Except Fault α) : Deaf (MonadExcept.ofExcept result) := by
  intro c signals
  rw [exec_ofExcept, exec_ofExcept]

theorem Deaf.bind {call : ClientM α} {next : α → ClientM β} (first : Deaf call)
    (second : ∀ value, Deaf (next value)) : Deaf (call >>= next) := by
  intro c signals
  rw [exec_bind, exec_bind, first c signals]
  rcases exec call c with ⟨fault | value, d⟩
  · rfl
  · exact second value d signals

/-- What is read out of the client before a call must not be the signals. -/
theorem deaf_get_bind {next : BaseRadioClient → ClientM α} (second : ∀ c, Deaf (next c))
    (blind : ∀ c signals, next (c.withSignals signals) = next c) : Deaf (get >>= next) := by
  intro c signals
  rw [exec_bind, exec_bind, exec_get, exec_get]
  simp only
  rw [blind c signals]
  exact second c c signals

theorem deaf_loadWaveConfigIds (files : WaveFiles) (path : String) :
    Deaf (loadWaveConfigIds files path) := by
  intro c signals
  rw [exec_loadWaveConfigIds, exec_loadWaveConfigIds]
  rfl

theorem deaf_isValidMsgID (files : WaveFiles) (msgId : String) :
    Deaf (isValidMsgID files msgId) := by
  have ids : Deaf (get >>= fun c : BaseRadioClient =>
      (pure (c.waveCfgDsrcMsgIds.any (msgId == ·)) : ClientM Bool)) :=
    deaf_get_bind (fun _ => deaf_pure _) fun _ _ => rfl
  refine deaf_get_bind (fun c => ?_) fun _ _ => rfl
  split
  · refine deaf_get_bind (fun d => ?_) fun _ _ => rfl
    split
    · exact deaf_pure false
    · refine deaf_get_bind (fun e => ?_) fun _ _ => rfl
      exact (deaf_loadWaveConfigIds files _).bind fun _ => ids
  · exact ids

theorem deaf_isPossiblePSID (files : WaveFiles) (msgId : String) :
    Deaf (isPossiblePSID files msgId) := by
  have psids : Deaf (get >>= fun c : BaseRadioClient =>
      (MonadExcept.ofExcept (psidLoop msgId c.waveCfgPsids) : ClientM Bool)) :=
    deaf_get_bind (fun _ => deaf_ofExcept _) fun _ _ => rfl
  refine deaf_get_bind (fun c => ?_) fun _ _ => rfl
  split
  · refine deaf_get_bind (fun d => ?_) fun _ _ => rfl
    split
    · exact deaf_pure false
    · refine deaf_get_bind (fun e => ?_) fun _ _ => rfl
      exact (deaf_loadWaveConfigIds files _).bind fun _ => psids
  · exact psids

theorem deaf_shouldProcess (files : WaveFiles) (msgId startIndex : Nat) (entry : List UInt8) :
    Deaf (shouldProcess files msgId startIndex entry) := by
  refine (deaf_isPossiblePSID files _).bind fun possible => ?_
  cases possible with
  | false => exact deaf_pure true
  | true => exact (deaf_ofExcept _).bind fun _ => deaf_pure _

theorem deaf_raise (message : List UInt8) (id : Nat) : Deaf (raise message id) :=
  fun _ _ => rfl

theorem deaf_processLoop (files : WaveFiles) (entry : List UInt8) (n i : Nat) :
    Deaf (processLoop files entry n i) := by
  induction n generalizing i with
  | zero => exact deaf_pure ()
  | succ n ih =>
      refine (deaf_ofExcept _).bind fun msgId => ?_
      refine (deaf_isValidMsgID files _).bind fun valid => ?_
      split
      · exact ih (i + 1)
      · split
        · exact deaf_pure ()
        · refine (deaf_ofExcept _).bind fun msgVec => ?_
          split
          · exact deaf_pure ()
          · refine (deaf_ofExcept _).bind fun consistent => ?_
            split
            · exact ih (i + 1)
            · refine (deaf_shouldProcess files _ _ _).bind fun raises => ?_
              split
              · exact deaf_raise _ _
              · exact ih (i + 1)

theorem deaf_remaining (files : WaveFiles) (entry : List UInt8) (pc : ProcessPc) :
    Deaf (remaining files entry pc) := by
  cases pc with
  | loop i n => exact deaf_processLoop files entry n i
  | known i n msgId =>
      rw [remaining]
      split
      · exact deaf_pure ()
      · refine (deaf_ofExcept _).bind fun msgVec => ?_
        split
        · exact deaf_pure ()
        · refine (deaf_ofExcept _).bind fun consistent => ?_
          split
          · exact deaf_processLoop files entry n (i + 1)
          · refine (deaf_shouldProcess files _ _ _).bind fun raises => ?_
            split
            · exact deaf_raise _ _
            · exact deaf_processLoop files entry n (i + 1)
  | raise message id => exact deaf_raise message id

end Deaf

/-! ## What one step does -/

/-- The signal the step at a point raises. -/
def ProcessPc.raises : ProcessPc → List MessageReceived
  | .raise message id => [⟨message, id⟩]
  | _ => []

/-- The steps a call has left at most. -/
def ProcessPc.left : ProcessPc → Nat
  | .loop _ n => 2 * n + 1
  | .known _ n _ => 2 * n + 2
  | .raise _ _ => 0

section Step

variable {files : WaveFiles} {entry : List UInt8} {c d : BaseRadioClient}
  {loaded : List WaveConfigStruct}

/-- The client is the one before, or has looked into its file. -/
def Looked (files : WaveFiles) (c d : BaseRadioClient) : Prop := d = c ∨ d = lazyLoad files c

/-- A step of `process` looks into the file at most, and raises what its point raises; if it goes
on, it comes closer to the end. -/
structure Stepped (files : WaveFiles) (c : BaseRadioClient) (pc : ProcessPc)
    (result : Except Fault (Progress ProcessPc Unit) × BaseRadioClient) : Prop where
  client : ∃ looked, Looked files c looked ∧
    result.2 = { looked with onMessageReceived := c.onMessageReceived ++ pc.raises }
  goes : ∀ next, result.1 = .ok (.goes next) → next.left < pc.left ∧ pc.raises = []

theorem Looked.onMessageReceived (looked : Looked files c d) :
    d.onMessageReceived = c.onMessageReceived := by
  rcases looked with rfl | rfl
  · rfl
  · exact lazyLoad_onMessageReceived files c

/-- A step that raises nothing and goes on. -/
theorem stepped_goes {pc next : ProcessPc} (quiet : pc.raises = []) (looked : Looked files c d)
    (closer : next.left < pc.left) : Stepped files c pc (.ok (.goes next), d) := by
  refine ⟨⟨d, looked, ?_⟩, fun onward same => ?_⟩
  · rw [quiet, List.append_nil, ← looked.onMessageReceived]
  · cases same
    exact ⟨closer, quiet⟩

/-- A step that raises nothing and does not go on. -/
theorem stepped_stops {pc : ProcessPc} (quiet : pc.raises = []) (looked : Looked files c d)
    {result : Except Fault (Progress ProcessPc Unit)}
    (stops : ∀ next, result ≠ .ok (.goes next)) : Stepped files c pc (result, d) := by
  refine ⟨⟨d, looked, ?_⟩, fun next same => absurd same (stops next)⟩
  rw [quiet, List.append_nil, ← looked.onMessageReceived]

theorem Aligned.looked_shouldProcess (aligned : Aligned loaded c) (msgId startIndex : Nat)
    (entry : List UInt8) :
    (exec (shouldProcess files msgId startIndex entry) c).2 = Radio.lazyLoad files c := by
  simp only [Radio.shouldProcess, exec_bind, aligned.isPossiblePSID]
  cases psidLoop (toString msgId)
      ((lazily files c.waveFilePath loaded).map (·.psid)) with
  | error fault => rfl
  | ok possible =>
      cases possible with
      | false => rfl
      | true =>
          simp only [if_true, exec_bind, exec_ofExcept]
          cases isValidMsgAssumingBSMPSID startIndex entry <;> rfl

theorem Aligned.stepped (aligned : Aligned loaded c) (pc : ProcessPc) :
    Stepped files c pc (exec (processStep files entry pc) c) := by
  cases pc with
  | loop i n =>
      cases n with
      | zero => exact stepped_stops rfl (.inl rfl) fun _ same => by cases same
      | succ n =>
          simp only [Radio.processStep, exec_bind, exec_ofExcept]
          cases wordAt entry i with
          | error fault => exact stepped_stops rfl (.inl rfl) fun _ same => by cases same
          | ok msgId =>
              simp only [aligned.isValidMsgID]
              split <;> exact stepped_goes rfl (.inr rfl) (by simp only [ProcessPc.left]; omega)
  | known i n msgId =>
      simp only [Radio.processStep]
      split
      · exact stepped_stops rfl (.inl rfl) fun _ same => by cases same
      · simp only [exec_bind, exec_ofExcept]
        cases sliceFrom entry i with
        | error fault => exact stepped_stops rfl (.inl rfl) fun _ same => by cases same
        | ok msgVec =>
            simp only
            split
            · exact stepped_stops rfl (.inl rfl) fun _ same => by cases same
            · simp only [exec_bind, exec_ofExcept]
              cases isValidMsgSize msgVec i entry with
              | error fault => exact stepped_stops rfl (.inl rfl) fun _ same => by cases same
              | ok consistent =>
                  cases consistent with
                  | false =>
                      exact stepped_goes rfl (.inl rfl) (by simp only [ProcessPc.left]; omega)
                  | true =>
                      have looked := @Aligned.looked_shouldProcess files c loaded aligned
                        msgId i entry
                      simp only [Bool.not_true, Bool.false_eq_true, if_false, exec_bind]
                      rcases ran : exec (shouldProcess files msgId i entry) c with
                        ⟨fault | raises, d⟩
                      · rw [ran] at looked
                        exact stepped_stops rfl (.inr looked) fun _ same => by cases same
                      · rw [ran] at looked
                        cases raises <;>
                        exact stepped_goes rfl (.inr looked)
                          (by simp only [ProcessPc.left]; omega)
  | raise message id =>
      exact ⟨⟨c, .inl rfl, rfl⟩, fun next same => by cases same⟩

end Step

/-! ## What is still to be raised -/

/-- What the client has raised once the scan in flight has run to its end, left alone. -/
def settledLog (files : WaveFiles) (flight : Option (List UInt8 × ProcessPc))
    (c : BaseRadioClient) : List MessageReceived :=
  match flight with
  | none => c.onMessageReceived
  | some (data, pc) => (exec (remaining files data pc) c).2.onMessageReceived

section Settled

variable {files : WaveFiles} {data : List UInt8} {pc next : ProcessPc} {c d : BaseRadioClient}
  {loaded : List WaveConfigStruct}

/-- Connection signals do not change it. -/
theorem settledLog_withSignals (flight : Option (List UInt8 × ProcessPc))
    (signals : List ConnectionSignal) :
    settledLog files flight (c.withSignals signals) = settledLog files flight c := by
  unfold settledLog
  split
  · rfl
  · rename_i data pc
    rw [deaf_remaining files data pc c signals]
    rfl

/-- A step that goes on does not change it, -/
theorem settledLog_goes {after : BaseRadioClient}
    (goes : exec (processStep files data pc) c = (.ok (.goes next), after)) :
    settledLog files (some (data, next)) after = settledLog files (some (data, pc)) c := by
  simp only [settledLog, exec_remaining pc, goes, afterStep]

/-- and the last step does not either. -/
theorem settledLog_stops {result : Except Fault (Progress ProcessPc Unit)}
    {after : BaseRadioClient} (ran : exec (processStep files data pc) c = (result, after))
    (stops : ∀ next, result ≠ .ok (.goes next)) :
    settledLog files none after = settledLog files (some (data, pc)) c := by
  simp only [settledLog, exec_remaining pc, ran]
  cases result with
  | error fault => rfl
  | ok progress =>
      cases progress with
      | goes next => exact absurd rfl (stops next)
      | returned done => rfl

/-- When a datagram arrives. -/
theorem settledLog_start (data : List UInt8) :
    settledLog files ((ProcessPc.start data).map (data, ·)) c =
      (exec (process files data) c).2.onMessageReceived := by
  rw [process_remaining]
  cases ProcessPc.start data <;> rfl

theorem Looked.aligned (looked : Looked files c d) (aligned : Aligned loaded c) :
    ∃ now, Aligned now d := by
  rcases looked with rfl | rfl
  · exact ⟨loaded, aligned⟩
  · exact ⟨_, (aligned.lazyLoad files).aligned⟩

/-- Whatever is in flight raises one message at most. -/
theorem remaining_once (aligned : Aligned loaded c) (pc : ProcessPc) :
    ∃ due, due.length ≤ 1 ∧
      (exec (remaining files data pc) c).2.onMessageReceived = c.onMessageReceived ++ due := by
  -- the induction is on the steps the call has left
  induction steps : pc.left using Nat.strong_induction_on generalizing pc c loaded with
  | _ steps ih =>
      obtain ⟨⟨looked, from_, client⟩, goes⟩ := @Aligned.stepped files data c loaded aligned pc
      have once : pc.raises.length ≤ 1 := by cases pc <;> simp [ProcessPc.raises]
      rw [exec_remaining]
      generalize exec (processStep files data pc) c = result at client goes
      obtain ⟨outcome, after⟩ := result
      subst client
      rcases outcome with fault | ⟨next | done⟩
      · exact ⟨pc.raises, once, rfl⟩
      · obtain ⟨closer, quiet⟩ := goes next rfl
        obtain ⟨now, columns⟩ := from_.aligned aligned
        obtain ⟨due, short, raised⟩ := ih next.left (steps ▸ closer)
          (c := { looked with onMessageReceived := c.onMessageReceived ++ pc.raises })
          ⟨columns.ids, columns.psids⟩ next rfl
        refine ⟨due, short, ?_⟩
        rw [afterStep, raised, quiet, List.append_nil]
      · exact ⟨pc.raises, once, rfl⟩

theorem settledLog_once (aligned : Aligned loaded c) (flight : Option (List UInt8 × ProcessPc)) :
    ∃ due, due.length ≤ 1 ∧ settledLog files flight c = c.onMessageReceived ++ due ∧
      (flight = none → due = []) := by
  cases flight with
  | none => exact ⟨[], Nat.zero_le 1, (List.append_nil _).symm, fun _ => rfl⟩
  | some at_ =>
      obtain ⟨due, short, raised⟩ := @remaining_once files at_.1 c loaded aligned at_.2
      exact ⟨due, short, raised, fun landed => by cases landed⟩

end Settled

/-! ## The client of one file -/

/-- The client of one file: before it is told of the file nothing is loaded, and then it has, or
will find, what is in it. -/
def Scans (files : WaveFiles) (path : String) (c : BaseRadioClient) : Prop :=
  ∃ loaded, Aligned loaded c ∧
    (c.waveFilePath.isEmpty = true ∧ loaded = [] ∨
      c.waveFilePath = path ∧ lazily files path loaded = tableAt files path)

section Scans

variable {files : WaveFiles} {path : String} {c d : BaseRadioClient}

theorem Scans.congr (scans : Scans files path c) (ids : d.waveCfgDsrcMsgIds = c.waveCfgDsrcMsgIds)
    (psids : d.waveCfgPsids = c.waveCfgPsids) (file : d.waveFilePath = c.waveFilePath) :
    Scans files path d := by
  obtain ⟨loaded, aligned, told⟩ := scans
  refine ⟨loaded, ⟨ids.trans aligned.ids, psids.trans aligned.psids⟩, ?_⟩
  rw [file]
  exact told

theorem Scans.told (scans : Scans files path c) :
    Scans files path { c with waveFilePath := path } := by
  obtain ⟨loaded, aligned, told⟩ := scans
  refine ⟨loaded, ⟨aligned.ids, aligned.psids⟩, .inr ⟨rfl, ?_⟩⟩
  rcases told with ⟨-, rfl⟩ | ⟨-, finds⟩
  · rfl
  · exact finds

theorem Scans.looked (scans : Scans files path c) (looked : Looked files c d) :
    Scans files path d := by
  rcases looked with rfl | rfl
  · exact scans
  · obtain ⟨loaded, aligned, told⟩ := scans
    refine ⟨_, (aligned.lazyLoad files).aligned, ?_⟩
    rw [lazyLoad_waveFilePath]
    rcases told with ⟨empty, rfl⟩ | ⟨file, finds⟩
    · exact .inl ⟨empty, by simp [lazily, empty]⟩
    · refine .inr ⟨file, ?_⟩
      rw [file, lazily_lazily, finds]

/-- One step of `process`. -/
theorem Scans.step (scans : Scans files path c) (data : List UInt8) (pc : ProcessPc) :
    Scans files path (exec (processStep files data pc) c).2 := by
  obtain ⟨loaded, aligned, -⟩ := id scans
  obtain ⟨looked, from_, client⟩ := (@Aligned.stepped files data c loaded aligned pc).client
  rw [client]
  exact (scans.looked from_).congr rfl rfl rfl

theorem Looked.waveFilePath (looked : Looked files c d) : d.waveFilePath = c.waveFilePath := by
  rcases looked with rfl | rfl
  · rfl
  · exact lazyLoad_waveFilePath files c

theorem Scans.step_file (scans : Scans files path c) (data : List UInt8) (pc : ProcessPc) :
    (exec (processStep files data pc) c).2.waveFilePath = c.waveFilePath := by
  obtain ⟨loaded, aligned, -⟩ := scans
  obtain ⟨looked, from_, client⟩ := (@Aligned.stepped files data c loaded aligned pc).client
  rw [client]
  exact from_.waveFilePath

/-- A client that was told of its file raises what the table of the file delivers. -/
theorem Scans.process (scans : Scans files path c) (told : c.waveFilePath = path)
    (data : List UInt8) :
    (exec (process files data) c).2.onMessageReceived =
      c.onMessageReceived ++ delivered (tableAt files path) data := by
  obtain ⟨loaded, aligned, cases_⟩ := scans
  obtain ⟨after, ran, raised, -⟩ := @Aligned.exec_process files c loaded aligned data
  have finds : lazily files path loaded = tableAt files path := by
    rcases cases_ with ⟨-, rfl⟩ | ⟨-, finds⟩
    · rfl
    · exact finds
  rw [ran, raised, told, finds]

end Scans

end V2xRosDriver.Radio
