/-
# Driver.HandleInvariant -- the handles of all clients under the steps of the executor

`Kept` says of a node that `Mqtt.Owned` holds for each of its clients, and what the
callback that is running has to know: whenever it may go on to start a thread, the client
it points to has no handle, or is being closed.  It is kept by the executor's steps, for
callbacks that begin while no `connect` is still to let go of its handle (`Guarded letGo`).

Most steps concern no handle (`of_benign`, `of_inactive`, `of_same`).  What is left are
the start of a `close` (`beginClose`), its steps (`stepClose`), a client replaced
(`replace`), a thread started (`startThread`) and the end of a destructor
(`finishDelete`).
-/
import V2xRosDriver.Driver.ClientHandles

namespace V2xRosDriver.Driver

set_option autoImplicit false

open V2xRosDriver.Theory.Transition
open V2xRosDriver.Radio
open RadioClient (Benign letGo)

/-! ## The invariant -/

/-- The callback may go on to start a thread before it closes or replaces the client. -/
def awaitsFresh : List Instr → Bool
  | [] => false
  | .close :: _ | .createRadioClient :: _ | .deleteClient :: _ => false
  | instr :: rest => instr.starts || awaitsFresh rest

/-- Every client's handles are in order, and the node starts no `connect` on a client that
has one. -/
structure Kept (s : Node) : Prop where
  guarded : Guarded letGo s
  owned : ∀ c, (s.clients c).radio.Owned
  busy : ∀ c, (s.clients c).radio.done = false → s.connectThread = some (.connecting c)
  closes : ∀ c, (s.clients c).radio.isClosing = true → s.closing = some c
  closed : ∀ c, s.closing = some c → (s.clients c).radio.isClosing = true
  awaited : awaitsFresh s.script = true → ∀ r, s.radioClient = some r →
    s.closing = some r ∨ (s.clients r).radio.NoHandle
  launched : s.connectThread = some .launched → ∀ r, s.radioClient = some r →
    (s.clients r).radio.NoHandle
  deleted : ∀ d, s.deleting = some d → s.closing = some d ∨ (s.clients d).radio.NoHandle
  gone : ∀ c, (s.clients c).gone = true →
    (s.clients c).radio.NoHandle ∧ s.radioClient ≠ some c ∧ s.closing ≠ some c

section Kept

variable {s t : Node}

/-- With nothing pending, every `connect` has let go of its handle. -/
theorem Kept.done (kept : Kept s) (inactive : active letGo s = false) (c : Nat) :
    (s.clients c).radio.done = true := by
  by_contra working
  rw [Bool.not_eq_true] at working
  have connecting := kept.busy c working
  have leaving : letGo (s.clients c).radio.phase = true := by
    simpa [active, connecting] using inactive
  rw [RadioClient.done_of_letGo leaving] at working
  cases working

theorem Kept.no_work (kept : Kept s) (inactive : active letGo s = false) {c : Nat} :
    (s.clients c).radio.done ≠ false := by
  rw [kept.done inactive c]
  decide

/-- A harmless callback starts no thread. -/
theorem not_awaitsFresh_of_harmless {script : List Instr} (mild : harmless script = true) :
    awaitsFresh script = false := by
  have unstarting (rest : List Instr) (none_ : rest.all (fun instr => !instr.starts) = true) :
      awaitsFresh rest = false := by
    induction rest with
    | nil => rfl
    | cons instr rest ih =>
        simp only [List.all_cons, Bool.and_eq_true, Bool.not_eq_true'] at none_
        cases instr <;> first | rfl | (cases none_.1; done) | exact ih none_.2
  induction script with
  | nil => rfl
  | cons instr rest ih =>
      cases instr with
      | join => exact unstarting rest mild
      | clearError | setConnecting | clearConnecting | loadWaveConfig | setWaveFilePath
      | wireHandlers => exact ih mild
      | _ => cases mild

/-- A benign change of one client is benign for every client. -/
theorem benign_onClient {c : Nat} {change : RadioClient → RadioClient}
    (benign : Benign (s.clients c).radio (change (s.clients c).radio)) (d : Nat) :
    Benign (s.clients d).radio ((s.onClient c change).clients d).radio :=
  s.forall_onClient (P := fun d radio => Benign (s.clients d).radio radio) benign
    (fun _ _ => .refl _) d

/-- A step that does nothing to the clients but what is benign. -/
theorem Kept.of_benign (kept : Kept s) (guarded : Guarded letGo t)
    (clients : ∀ c, Benign (s.clients c).radio (t.clients c).radio)
    (gone : ∀ c, (t.clients c).gone = (s.clients c).gone)
    (busy : ∀ c, (s.clients c).radio.done = false → t.connectThread = some (.connecting c))
    (launched : t.connectThread = some .launched → s.connectThread = some .launched)
    (client : t.radioClient = s.radioClient) (closing : t.closing = s.closing)
    (deleting : t.deleting = s.deleting)
    (awaited : awaitsFresh t.script = true → awaitsFresh s.script = true) : Kept t where
  guarded := guarded
  owned c := (clients c).owned (kept.owned c)
  busy c working := busy c ((clients c).done ▸ working)
  closes c running := by
    rw [closing]
    exact kept.closes c ((clients c).closing ▸ running)
  closed c running := by
    rw [(clients c).closing]
    exact kept.closed c (closing ▸ running)
  awaited waits r points := by
    rw [closing]
    exact (kept.awaited (awaited waits) r (client ▸ points)).imp id (clients r).noHandle
  launched starts r points :=
    (clients r).noHandle (kept.launched (launched starts) r (client ▸ points))
  deleted d deletes := by
    rw [closing]
    exact (kept.deleted d (deleting ▸ deletes)).imp id (clients d).noHandle
  gone c isGone := by
    obtain ⟨cleared, unpointed, unclosed⟩ := kept.gone c (gone c ▸ isGone)
    rw [client, closing]
    exact ⟨(clients c).noHandle cleared, unpointed, unclosed⟩

/-- A benign step with nothing pending that starts no thread. -/
theorem Kept.of_inactive (kept : Kept s) (inactive : active letGo s = false)
    (guarded : Guarded letGo t) (clients : ∀ c, Benign (s.clients c).radio (t.clients c).radio)
    (gone : ∀ c, (t.clients c).gone = (s.clients c).gone)
    (unstarted : t.connectThread ≠ some .launched) (client : t.radioClient = s.radioClient)
    (closing : t.closing = s.closing) (deleting : t.deleting = s.deleting)
    (awaited : awaitsFresh t.script = true → awaitsFresh s.script = true) : Kept t := by
  apply kept.of_benign guarded clients gone _ _ client closing deleting awaited
  · intro c working
    exact absurd working (kept.no_work inactive)
  · intro starts
    exact absurd starts unstarted

/-- A step that leaves the clients alone. -/
theorem Kept.of_same (kept : Kept s) (guarded : Guarded letGo t) (clients : t.clients = s.clients)
    (thread : t.connectThread = s.connectThread) (client : t.radioClient = s.radioClient)
    (closing : t.closing = s.closing) (deleting : t.deleting = s.deleting)
    (awaited : awaitsFresh t.script = true → awaitsFresh s.script = true) : Kept t := by
  apply kept.of_benign guarded ?_ ?_ ?_ ?_ client closing deleting awaited
  · intro c
    rw [clients]
    exact .refl _
  · intro c
    rw [clients]
  · intro c working
    rw [thread]
    exact kept.busy c working
  · rw [thread]
    exact id

/-- A `close` begins on a client that is not gone, while no `connect` is pending. -/
theorem Kept.beginClose (kept : Kept s) (inactive : active letGo s = false)
    (open_ : s.closing = none) {c : Nat} (alive : (s.clients c).gone = false)
    (t : Node) (guarded : Guarded letGo t)
    (clients : t.clients = (s.onClient c .beginClose).clients)
    (thread : t.connectThread = s.connectThread) (client : t.radioClient = s.radioClient)
    (closing : t.closing = some c)
    (deleting : ∀ d, t.deleting = some d → d = c)
    (awaited : awaitsFresh t.script = true → ∀ r, s.radioClient = some r →
      r = c ∨ (s.clients r).radio.NoHandle) : Kept t := by
  have here : (t.clients c).radio = (s.clients c).radio.beginClose := by
    rw [clients, Node.onClient_self]
  have elsewhere {d : Nat} (other : d ≠ c) : t.clients d = s.clients d := by
    rw [clients, Node.onClient_ne s other]
  have idle (d : Nat) : (s.clients d).radio.isClosing = false := by
    rw [Bool.eq_false_iff]
    intro running
    have busy := kept.closes d running
    rw [open_] at busy
    cases busy
  refine ⟨guarded, ?_, ?_, ?_, ?_, ?_, ?_, ?_, ?_⟩
  · rw [clients]
    exact s.forall_onClient (P := fun _ radio => radio.Owned)
      (RadioClient.owned_beginClose (kept.owned c) (idle c) (kept.done inactive c))
      fun d _ => kept.owned d
  · intro d working
    have done : ((s.onClient c .beginClose).clients d).radio.done = true :=
      s.forall_onClient (P := fun _ radio => radio.done = true)
        ((RadioClient.done_beginClose _).trans (kept.done inactive c))
        (fun d _ => kept.done inactive d) d
    rw [clients, done] at working
    cases working
  · intro d running
    by_cases same : d = c
    · rw [closing, same]
    · rw [elsewhere same, idle d] at running
      cases running
  · intro d running
    rw [closing] at running
    cases running
    rw [here]
    cases (s.clients c).radio <;> rfl
  · intro waits r points
    rw [client] at points
    by_cases same : r = c
    · exact Or.inl (by rw [closing, same])
    · rw [elsewhere same]
      exact (awaited waits r points).imp (fun equal => absurd equal same) id
  · intro starts
    exact absurd (thread ▸ starts) (not_launched inactive)
  · intro d deletes
    rw [closing, deleting d deletes]
    exact Or.inl rfl
  · intro d isGone
    have other : d ≠ c := by
      rintro rfl
      rw [clients] at isGone
      simp [Node.onClient, alive] at isGone
    rw [elsewhere other] at isGone ⊢
    obtain ⟨cleared, unpointed, -⟩ := kept.gone d isGone
    rw [client, closing]
    exact ⟨cleared, unpointed, fun equal => other (Option.some.inj equal).symm⟩

/-- A callback that is not harmless runs with nothing pending. -/
theorem Kept.inactive (kept : Kept s) (wild : harmless s.script = false) :
    active letGo s = false := by
  rw [Bool.eq_false_iff]
  intro pending
  rw [kept.guarded.harmless pending] at wild
  cases wild

/-! ## The clients the node closes, replaces and deletes -/

/-- A client just made has no handle and no calls. -/
theorem newRadioClient_spec (config : Config) :
    (Node.newRadioClient config).NoHandle ∧ (Node.newRadioClient config).Owned ∧
      (Node.newRadioClient config).done = true ∧
      (Node.newRadioClient config).isClosing = false := by
  unfold Node.newRadioClient
  split
  · exact ⟨rfl, Mqtt.Owned.fresh, rfl, rfl⟩
  · exact ⟨trivial, trivial, rfl, rfl⟩

/-- One more client object changes nothing that is pending. -/
theorem Kept.inactive_replace (kept : Kept s) (inactive : active letGo s = false)
    {made : ClientObject} (thread : t.connectThread = s.connectThread)
    (clients : t.clients = Function.update s.clients s.created made) :
    active letGo t = false := by
  rw [← inactive]
  apply active_congr thread
  intro c connects
  have older : c ≠ s.created := Nat.ne_of_lt (kept.guarded.connecting c connects)
  rw [clients, Function.update_of_ne older]

/-- The pointer moves to a client just made. -/
theorem Kept.replace {rest : List Instr} (kept : Kept s) (inactive : active letGo s = false)
    (inOrder : Driver.ordered rest = true) (open_ : s.closing = none)
    (undeleted : s.deleting = none) :
    Kept { s with
      script := rest
      clients := Function.update s.clients s.created { radio := Node.newRadioClient s.config }
      created := s.created + 1
      radioClient := some s.created } := by
  obtain ⟨cleared, owned, done, idle⟩ := newRadioClient_spec s.config
  refine ⟨.of_inactive inOrder ?_ ?_ ?_, ?_, ?_, ?_, ?_, ?_, ?_, ?_, ?_⟩
  · intro c points
    cases points
    exact Nat.lt_succ_self _
  · intro c connects
    exact Nat.lt_succ_of_lt (kept.guarded.connecting c connects)
  · exact kept.inactive_replace inactive rfl rfl
  · intro c
    by_cases new : c = s.created
    · simpa [new] using owned
    · simpa [new] using kept.owned c
  · intro c working
    by_cases new : c = s.created
    · simp [new, done] at working
    · simp [new, kept.done inactive c] at working
  · intro c running
    by_cases new : c = s.created
    · simp [new, idle] at running
    · exact kept.closes c (by simpa [new] using running)
  · intro c running
    rw [show s.closing = some c from running] at open_
    cases open_
  · intro _ r points
    cases points
    exact Or.inr (by simpa using cleared)
  · intro _ r points
    cases points
    simpa using cleared
  · intro d deletes
    rw [show s.deleting = some d from deletes] at undeleted
    cases undeleted
  · intro c isGone
    have old : c ≠ s.created := by
      rintro rfl
      simp at isGone
    simp only [Function.update_of_ne old] at isGone ⊢
    obtain ⟨without, -, unclosed⟩ := kept.gone c isGone
    exact ⟨without, fun points => old (Option.some.inj points).symm, unclosed⟩

/-- The node points to a client only while it lives. -/
theorem Kept.alive (kept : Kept s) {c : Nat} (points : s.radioClient = some c) :
    (s.clients c).gone = false := by
  rw [Bool.eq_false_iff]
  intro isGone
  exact (kept.gone c isGone).2.1 points

/-- `createRadioClient`: a new client, then the destructor of the old one. -/
theorem Kept.createRadioClient {rest : List Instr} (kept : Kept s)
    (guarded : Guarded letGo ({ s with script := rest } : Node).createRadioClient)
    (inactive : active letGo s = false) (inOrder : Driver.ordered rest = true)
    (open_ : s.closing = none) (undeleted : s.deleting = none) :
    Kept ({ s with script := rest } : Node).createRadioClient := by
  have replaced := kept.replace inactive inOrder open_ undeleted
  unfold Node.createRadioClient at guarded ⊢
  cases points : s.radioClient with
  | none =>
      exact replaced
  | some old =>
      simp only [points] at guarded ⊢
      have older : old ≠ s.created := Nat.ne_of_lt (kept.guarded.pointed old points)
      refine replaced.beginClose ?_ open_ (c := old) ?_ _ guarded rfl rfl rfl rfl ?_ ?_
      · exact kept.inactive_replace inactive rfl rfl
      · simpa [older] using kept.alive points
      · intro d deletes
        exact (Option.some.inj deletes).symm
      · intro _ r pointed
        cases pointed
        exact Or.inr (by simpa using (newRadioClient_spec s.config).1)

/-! ## Instructions -/

/-- A callback is no more eager to start a thread once an instruction is taken off it that neither
closes nor replaces the client. -/
theorem awaitsFresh_of_rest {instr : Instr} {rest : List Instr}
    (mild : instr ≠ .close ∧ instr ≠ .createRadioClient ∧ instr ≠ .deleteClient)
    (waits : awaitsFresh rest = true) : awaitsFresh (instr :: rest) = true := by
  cases instr <;> simp_all [awaitsFresh]

/-- A passive instruction is benign. -/
theorem Kept.execute_passive {instr : Instr} {rest : List Instr} (kept : Kept s)
    (guarded : Guarded letGo t) (script : s.script = instr :: rest)
    (passive : instr.passive = true) (moved : { s with script := rest }.execute instr = some t) :
    Kept t := by
  obtain ⟨unmoved, later⟩ := Driver.execute_passive passive moved
  have awaited : awaitsFresh t.script = true → awaitsFresh s.script = true := by
    intro waits
    rw [later] at waits
    rw [script]
    apply awaitsFresh_of_rest _ waits
    refine ⟨?_, ?_, ?_⟩ <;>
    · rintro rfl
      cases passive
  have benign : ∀ c, Benign (s.clients c).radio (t.clients c).radio ∧
      (t.clients c).gone = (s.clients c).gone := by
    intro c
    cases instr with
    | clearError | setConnecting | clearConnecting | loadWaveConfig =>
        cases moved
        exact ⟨.refl _, rfl⟩
    | setWaveFilePath path =>
        simp only [Node.execute] at moved
        split at moved
        · cases moved
          exact ⟨benign_onClient (RadioClient.benign_setWaveFilePath path _) c,
            Node.onClient_gone _ _ c _⟩
        · cases moved
          exact ⟨.refl _, rfl⟩
    | wireHandlers =>
        simp only [Node.execute] at moved
        split at moved
        · cases moved
          rw [Node.wireError_radio, Node.wireError_gone]
          exact ⟨.refl _, rfl⟩
        · cases moved
          exact ⟨.refl _, rfl⟩
    | _ => cases passive
  have thread : t.connectThread = s.connectThread := unmoved.thread
  apply kept.of_benign guarded (fun c => (benign c).1) (fun c => (benign c).2) _ _ unmoved.client
    unmoved.closing unmoved.deleting awaited
  · intro c working
    rw [thread]
    exact kept.busy c working
  · rw [thread]
    exact id

/-- A test only puts more instructions in front. -/
theorem execute_test {instr : Instr} {rest : List Instr}
    (tests : instr = .testError ∨ instr = .testConnecting ∨ instr = .testConnected)
    (moved : { s with script := rest }.execute instr = some t) :
    ∃ later, t = { s with script := later } ∧
      (awaitsFresh later = true → awaitsFresh (instr :: rest) = true) := by
  rcases tests with rfl | rfl | rfl
  · cases moved
    split
    · refine ⟨_, rfl, fun waits => ?_⟩
      cases waits
    · exact ⟨rest, rfl, awaitsFresh_of_rest (by simp)⟩
  · cases moved
    split
    · exact ⟨rest, rfl, fun _ => rfl⟩
    · exact ⟨_, rfl, fun _ => rfl⟩
  · cases moved
    split
    · exact ⟨rest, rfl, fun _ => rfl⟩
    · exact ⟨_, rfl, fun _ => rfl⟩

/-- `startThread`: the client has no handle, since the callback has closed or replaced it. -/
theorem Kept.startThread {rest : List Instr} (kept : Kept s)
    (guarded : Guarded letGo { s with script := rest, connectThread := some .launched })
    (script : s.script = .startThread :: rest) (open_ : s.closing = none) :
    Kept { s with script := rest, connectThread := some .launched } := by
  have inactive := kept.inactive (by rw [script]; rfl)
  have cleared (r : Nat) (points : s.radioClient = some r) : (s.clients r).radio.NoHandle := by
    rcases kept.awaited (by rw [script]; rfl) r points with closing | cleared
    · rw [open_] at closing
      cases closing
    · exact cleared
  refine ⟨guarded, kept.owned, ?_, kept.closes, kept.closed, ?_, ?_, kept.deleted, kept.gone⟩
  · intro c working
    exact absurd working (kept.no_work inactive)
  · intro _ r points
    exact Or.inr (cleared r points)
  · intro _ r points
    exact cleared r points

/-- A `close` or a destructor begins on the client the node points to. -/
theorem Kept.beginClose_pointed (kept : Kept s) (inactive : active letGo s = false)
    (open_ : s.closing = none) {c : Nat} (points : s.radioClient = some c)
    (guarded : Guarded letGo t) (clients : t.clients = (s.onClient c .beginClose).clients)
    (thread : t.connectThread = s.connectThread) (client : t.radioClient = s.radioClient)
    (closing : t.closing = some c) (deleting : ∀ d, t.deleting = some d → d = c) : Kept t := by
  apply kept.beginClose inactive open_ (kept.alive points) t guarded clients thread client closing
    deleting
  intro _ r pointed
  rw [points] at pointed
  exact Or.inl (Option.some.inj pointed).symm

/-- An instruction dropped while there is no client. -/
theorem Kept.taken {rest : List Instr} (kept : Kept s)
    (guarded : Guarded letGo { s with script := rest }) (unpointed : s.radioClient = none) :
    Kept { s with script := rest } where
  guarded := guarded
  owned := kept.owned
  busy := kept.busy
  closes := kept.closes
  closed := kept.closed
  awaited _ r points := by
    rw [show s.radioClient = some r from points] at unpointed
    cases unpointed
  launched := kept.launched
  deleted := kept.deleted
  gone := kept.gone

/-- One instruction. -/
theorem Kept.execute (kept : Kept s) (guarded : Guarded letGo t) {instr : Instr}
    {rest : List Instr} (script : s.script = instr :: rest) (open_ : s.closing = none)
    (undeleted : s.deleting = none) (moved : { s with script := rest }.execute instr = some t) :
    Kept t := by
  cases instr with
  | clearError | setConnecting | clearConnecting | loadWaveConfig | setWaveFilePath
  | wireHandlers => exact kept.execute_passive guarded script rfl moved
  | testError | testConnecting | testConnected =>
      obtain ⟨later, rfl, waits⟩ := execute_test (by simp) moved
      exact kept.of_same guarded rfl rfl rfl rfl rfl (by rw [script]; exact waits)
  | join =>
      have onward : awaitsFresh rest = true → awaitsFresh s.script = true := by
        rw [script]
        exact awaitsFresh_of_rest (by simp)
      simp only [Node.execute, Node.join] at moved
      split at moved
      · cases moved
        exact kept.of_same guarded rfl rfl rfl rfl rfl onward
      · rename_i finished
        cases moved
        have inactive : active letGo s = false := by
          simp [active, show s.connectThread = some .finished from finished]
        exact kept.of_inactive inactive guarded (fun _ => .refl _) (fun _ => rfl) (by simp) rfl rfl
          rfl onward
      · cases moved
  | startThread =>
      cases moved
      exact kept.startThread guarded script open_
  | releaseThread =>
      have inactive := kept.inactive (by rw [script]; rfl)
      cases moved
      apply kept.of_inactive inactive guarded (fun _ => .refl _) (fun _ => rfl) (by simp) rfl rfl
        rfl
      rw [script]
      exact awaitsFresh_of_rest (by simp)
  | close =>
      have inactive := kept.inactive (by rw [script]; rfl)
      cases moved
      revert guarded
      unfold Node.close
      split
      · rename_i c points
        intro guarded
        apply kept.beginClose_pointed inactive open_ points guarded rfl rfl rfl rfl
        intro d deletes
        rw [show s.deleting = some d from deletes] at undeleted
        cases undeleted
      · rename_i unpointed
        intro guarded
        exact kept.taken guarded unpointed
  | deleteClient =>
      have inactive := kept.inactive (by rw [script]; rfl)
      simp only [Node.execute] at moved
      split at moved
      · rename_i c points
        cases moved
        apply kept.beginClose_pointed inactive open_ points guarded rfl rfl rfl rfl
        intro d deletes
        exact (Option.some.inj deletes).symm
      · rename_i unpointed
        cases moved
        exact kept.taken guarded unpointed
  | createRadioClient =>
      have inactive := kept.inactive (by rw [script]; rfl)
      cases moved
      have inOrder := kept.guarded.ordered
      rw [script] at inOrder
      simp only [Driver.ordered, Bool.and_eq_true] at inOrder
      exact kept.createRadioClient guarded inactive inOrder.2 open_ undeleted

/-! ## Steps of a `close` and of a destructor -/

/-- One step of a `close`. -/
theorem Kept.stepClose (kept : Kept s) {c : Nat} (closing : s.closing = some c)
    (guarded : Guarded letGo (s.stepClose c)) : Kept (s.stepClose c) := by
  have running := kept.closed c closing
  have inactive : active letGo s = false := kept.guarded.inactive_of_closing closing
  have here : ((s.stepClose c).clients c).radio = (s.clients c).radio.stepClose :=
    s.onClient_self c _
  have elsewhere {d : Nat} (other : d ≠ c) : (s.stepClose c).clients d = s.clients d :=
    s.onClient_ne other _
  have call : (s.stepClose c).closing =
      if (s.clients c).radio.stepClose.isClosing then some c else none := by
    rw [← here]
    rfl
  -- what was without a handle, or being closed, stays so
  have cleared (d : Nat) (known : s.closing = some d ∨ (s.clients d).radio.NoHandle) :
      (s.stepClose c).closing = some d ∨ ((s.stepClose c).clients d).radio.NoHandle := by
    by_cases same : d = c
    · subst same
      cases returned : (s.clients d).radio.stepClose.isClosing with
      | true => exact Or.inl (by rw [call, returned]; rfl)
      | false =>
          rw [here]
          exact Or.inr (RadioClient.noHandle_of_returned (kept.owned d) running returned)
    · rw [elsewhere same]
      rw [closing] at known
      exact Or.inr (known.resolve_left fun equal => same (Option.some.inj equal).symm)
  refine ⟨guarded, ?_, ?_, ?_, ?_, ?_, ?_, ?_, ?_⟩
  · exact s.forall_onClient (P := fun _ radio => radio.Owned)
      (RadioClient.owned_stepClose (kept.owned c)) fun d _ => kept.owned d
  · intro d working
    have done : ((s.stepClose c).clients d).radio.done = true :=
      s.forall_onClient (P := fun _ radio => radio.done = true)
        ((RadioClient.done_stepClose _).trans (kept.done inactive c))
        (fun d _ => kept.done inactive d) d
    rw [done] at working
    cases working
  · intro d runs
    by_cases same : d = c
    · subst same
      rw [here] at runs
      rw [call, runs]
      rfl
    · rw [elsewhere same] at runs
      rw [kept.closes d runs] at closing
      exact absurd (Option.some.inj closing) same
  · intro d runs
    rw [call] at runs
    split at runs
    · rename_i on
      cases runs
      rw [here]
      exact on
    · cases runs
  · intro waits r points
    exact cleared r (kept.awaited waits r points)
  · intro starts
    have unstarted : s.connectThread ≠ some .launched := not_launched inactive
    exact absurd starts unstarted
  · intro d deletes
    exact cleared d (kept.deleted d deletes)
  · intro d isGone
    have dead : (s.clients d).gone = true := by
      rw [← isGone]
      exact (s.onClient_gone c d _).symm
    obtain ⟨without, unpointed, unclosed⟩ := kept.gone d dead
    have other : d ≠ c := by
      rintro rfl
      exact unclosed closing
    rw [elsewhere other, call]
    refine ⟨without, unpointed, ?_⟩
    split
    · exact fun equal => other (Option.some.inj equal).symm
    · exact fun equal => by cases equal

/-- A destructor ends. -/
theorem Kept.finishDelete (kept : Kept s) {c : Nat} (open_ : s.closing = none)
    (deleting : s.deleting = some c) (guarded : Guarded letGo (s.finishDelete c)) :
    Kept (s.finishDelete c) := by
  have pointer (r : Nat) (points : (s.finishDelete c).radioClient = some r) :
      s.radioClient = some r ∧ r ≠ c := by
    simp only [Node.finishDelete] at points
    split at points
    · cases points
    · rename_i other
      refine ⟨points, ?_⟩
      rintro rfl
      exact other points
  have kind (d : Nat) : ((s.finishDelete c).clients d).radio = (s.clients d).radio :=
    s.finishDelete_radio c d
  refine ⟨guarded, ?_, ?_, ?_, ?_, ?_, ?_, ?_, ?_⟩
  · intro d
    rw [kind]
    exact kept.owned d
  · intro d working
    rw [kind] at working
    exact kept.busy d working
  · intro d runs
    rw [kind] at runs
    exact kept.closes d runs
  · intro d runs
    rw [kind]
    exact kept.closed d runs
  · intro waits r points
    rw [kind]
    exact kept.awaited waits r (pointer r points).1
  · intro starts r points
    rw [kind]
    exact kept.launched starts r (pointer r points).1
  · intro d deletes
    cases deletes
  · intro d isGone
    rw [kind]
    by_cases same : d = c
    · subst same
      have cleared := kept.deleted d deleting
      rw [open_] at cleared
      refine ⟨cleared.resolve_left (by simp), fun points => (pointer d points).2 rfl, ?_⟩
      rw [show (s.finishDelete d).closing = none from open_]
      simp
    · rw [s.finishDelete_gone same] at isGone
      obtain ⟨cleared, unpointed, unclosed⟩ := kept.gone d isGone
      exact ⟨cleared, fun points => unpointed (pointer d points).1, unclosed⟩

theorem Kept.executorStep (kept : Kept s) (guarded : Guarded letGo t)
    (moved : s.executorStep = some t) : Kept t := by
  rcases executorStep_cases moved with ⟨c, closing, rfl⟩ | ⟨c, closing, deleting, rfl⟩ |
    ⟨instr, rest, closing, deleting, script, executed⟩
  · exact kept.stepClose closing guarded
  · exact kept.finishDelete closing deleting guarded
  · exact kept.execute guarded script closing deleting executed

end Kept

end V2xRosDriver.Driver
