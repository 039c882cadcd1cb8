/-
# Driver.RestInvariant -- who rests while the node runs

Every client but the one the node points to rests or is being closed: a client that is replaced
is closed by its destructor.  The client the node points to rests wherever the callback that is
running may start a thread, since it has closed it or made it anew.  `Hushed` says so, and every
run keeps it in which a reconnect, a configure and the node's destructor begin only while no
`connect` is still to let go of its handle, as in `Driver.Sessions`.
-/
import V2xRosDriver.Driver.RestingClients
import V2xRosDriver.Driver.Sessions
import V2xRosDriver.Driver.Steps

namespace V2xRosDriver.Driver

set_option autoImplicit false

open V2xRosDriver.Theory.Transition
open V2xRosDriver.Radio

open RadioClient (letGo)

/-- Every client but the one the node points to rests or is being closed, and so does that one
where the callback may start a thread. -/
structure Hushed (s : Node) : Prop where
  busy : ∀ c, (s.clients c).radio.linking = true → s.connectThread = some (.connecting c)
  winding : ∀ c, (s.clients c).radio.Winding
  awaited : awaitsFresh s.script = true → ∀ r, s.radioClient = some r →
    s.closing = some r ∨ (s.clients r).radio.Resting
  deleted : ∀ d, s.deleting = some d → s.closing = some d ∨ (s.clients d).radio.Resting
  others : ∀ c, s.radioClient ≠ some c → s.closing = some c ∨ (s.clients c).radio.Resting

section Hushed

variable {s t : Node}

/-- With nothing pending, no UDP client is in a `connect` call. -/
theorem Hushed.unlinked (hushed : Hushed s) (inactive : active letGo s = false) (c : Nat) :
    (s.clients c).radio.linking = false := by
  rw [Bool.eq_false_iff]
  intro links
  have connecting := hushed.busy c links
  have settled : letGo (s.clients c).radio.phase = true := by
    simpa [active, connecting] using inactive
  cases kind : (s.clients c).radio with
  | mqtt calls =>
      rw [kind] at links
      cases links
  | udp calls =>
      rw [kind, RadioClient.phase] at settled
      cases at_ : calls.connectAt <;>
      · rw [at_] at settled
        cases settled

/-- A step that is mild with every client. -/
theorem Hushed.of_mild (hushed : Hushed s)
    (clients : ∀ c, (s.clients c).radio.Mild (t.clients c).radio)
    (busy : ∀ c, s.connectThread = some (.connecting c) → (t.clients c).radio.linking = true →
      t.connectThread = some (.connecting c))
    (client : t.radioClient = s.radioClient) (closing : t.closing = s.closing)
    (deleting : t.deleting = s.deleting)
    (awaited : awaitsFresh t.script = true → awaitsFresh s.script = true) : Hushed t where
  busy c links := busy c (hushed.busy c ((clients c).linking links)) links
  winding c := (clients c).winding (hushed.winding c)
  awaited waits r points := by
    rw [closing]
    exact (hushed.awaited (awaited waits) r (client ▸ points)).imp_right (clients r).resting
  deleted d deletes := by
    rw [closing]
    exact (hushed.deleted d (deleting ▸ deletes)).imp_right (clients d).resting
  others c apart := by
    rw [closing]
    exact (hushed.others c (client ▸ apart)).imp_right (clients c).resting

/-- A step that leaves the clients alone, and the thread of a `connect` call. -/
theorem Hushed.of_same (hushed : Hushed s) (clients : t.clients = s.clients)
    (thread : ∀ c, s.connectThread = some (.connecting c) →
      t.connectThread = some (.connecting c))
    (client : t.radioClient = s.radioClient) (closing : t.closing = s.closing)
    (deleting : t.deleting = s.deleting)
    (awaited : awaitsFresh t.script = true → awaitsFresh s.script = true) : Hushed t := by
  refine hushed.of_mild ?_ (fun c connects _ => thread c connects) client closing deleting awaited
  intro c
  rw [clients]
  exact .refl _

/-- A mild change of one client is mild with every client. -/
theorem mild_onClient {c : Nat} {change : RadioClient → RadioClient}
    (mild : (s.clients c).radio.Mild (change (s.clients c).radio)) (d : Nat) :
    (s.clients d).radio.Mild ((s.onClient c change).clients d).radio :=
  s.forall_onClient (P := fun d radio => (s.clients d).radio.Mild radio) mild
    (fun _ _ => .refl _) d

/-! ### The executor -/

theorem Hushed.execute_passive {instr : Instr} {rest : List Instr} (hushed : Hushed s)
    (script : s.script = instr :: rest) (passive : instr.passive = true)
    (moved : { s with script := rest }.execute instr = some t) : Hushed t := by
  obtain ⟨unmoved, later⟩ := Driver.execute_passive passive moved
  have thread : t.connectThread = s.connectThread := unmoved.thread
  refine hushed.of_mild ?_ ?_ unmoved.client unmoved.closing unmoved.deleting ?_
  · intro c
    cases instr with
    | clearError | setConnecting | clearConnecting | loadWaveConfig =>
        cases moved
        exact .refl _
    | setWaveFilePath path =>
        simp only [Node.execute] at moved
        split at moved
        · cases moved
          exact mild_onClient (RadioClient.mild_setWaveFilePath path _) c
        · cases moved
          exact .refl _
    | wireHandlers =>
        simp only [Node.execute] at moved
        split at moved
        · cases moved
          rw [Node.wireError_radio]
          exact .refl _
        · cases moved
          exact .refl _
    | _ => cases passive
  · intro c connects _
    rw [thread]
    exact connects
  · intro waits
    rw [later] at waits
    rw [script]
    refine awaitsFresh_of_rest ⟨?_, ?_, ?_⟩ waits <;>
    · rintro rfl
      cases passive

/-- A `close` begins on the client the node points to. -/
theorem Hushed.beginClose (hushed : Hushed s) (open_ : s.closing = none)
    (undeleted : s.deleting = none) {c : Nat} (points : s.radioClient = some c)
    (clients : t.clients = (s.onClient c .beginClose).clients)
    (thread : t.connectThread = s.connectThread) (client : t.radioClient = s.radioClient)
    (closing : t.closing = some c) (deleting : t.deleting = s.deleting ∨ t.deleting = some c) :
    Hushed t := by
  have mild (d : Nat) : (s.clients d).radio.Mild (t.clients d).radio := by
    rw [clients]
    exact mild_onClient (RadioClient.mild_beginClose _) d
  refine ⟨?_, fun d => (mild d).winding (hushed.winding d), ?_, ?_, ?_⟩
  · intro d links
    rw [thread]
    exact hushed.busy d ((mild d).linking links)
  · intro _ r pointed
    rw [client, points] at pointed
    rw [closing]
    exact .inl pointed
  · intro d deletes
    rw [closing]
    rcases deleting with same | same
    · rw [same, undeleted] at deletes
      cases deletes
    · exact .inl (same.symm.trans deletes)
  · intro d apart
    rw [client] at apart
    have before := hushed.others d apart
    rw [open_] at before
    exact .inr ((mild d).resting (before.resolve_left (by simp)))

/-- `createRadioClient` makes a client, whatever becomes of the old one. -/
theorem createRadioClient_made (older : ∀ c, s.radioClient = some c → c ≠ s.created) :
    (s.createRadioClient.clients s.created).radio = Node.newRadioClient s.config := by
  rw [Node.createRadioClient]
  split
  · rename_i old points
    have other : s.created ≠ old := (older old points).symm
    simp [Node.beginDelete, Node.onClient, Function.update_of_ne other]
  · simp

/-- The old client begins to close, and the others are left alone. -/
theorem createRadioClient_mild {d : Nat} (apart : d ≠ s.created) :
    (s.clients d).radio.Mild (s.createRadioClient.clients d).radio := by
  rw [Node.createRadioClient]
  split
  · rename_i old points
    by_cases same : d = old
    · subst same
      simpa [Node.beginDelete, Node.onClient, apart] using RadioClient.mild_beginClose _
    · simpa [Node.beginDelete, Node.onClient, apart, same] using RadioClient.Mild.refl _
  · simpa [apart] using RadioClient.Mild.refl _

/-- The old client is being closed and deleted; without one nothing is. -/
theorem createRadioClient_closing (s : Node) :
    (s.radioClient = none ∧ s.createRadioClient.closing = s.closing ∧
        s.createRadioClient.deleting = s.deleting) ∨
      ∃ old, s.radioClient = some old ∧ s.createRadioClient.closing = some old ∧
        s.createRadioClient.deleting = some old := by
  rw [Node.createRadioClient]
  split
  · rename_i old points
    exact .inr ⟨old, points, rfl, rfl⟩
  · rename_i without
    exact .inl ⟨without, rfl, rfl⟩

/-- `createRadioClient`: the client just made rests. -/
theorem Hushed.createRadioClient (kept : Kept s) (hushed : Hushed s)
    (inactive : active letGo s = false) (open_ : s.closing = none)
    (undeleted : s.deleting = none) (rest : List Instr) :
    Hushed ({ s with script := rest } : Node).createRadioClient := by
  have older (c : Nat) (points : s.radioClient = some c) : c ≠ s.created :=
    Nat.ne_of_lt (kept.guarded.pointed c points)
  have frame := createRadioClient_frame { s with script := rest }
  have closes := createRadioClient_closing { s with script := rest }
  have made := @createRadioClient_made { s with script := rest } older
  have mild (d : Nat) := @createRadioClient_mild { s with script := rest } d
  generalize ({ s with script := rest } : Node).createRadioClient = t at frame closes made mild ⊢
  have fresh := RadioClient.resting_newRadioClient s.config
  refine ⟨?_, ?_, ?_, ?_, ?_⟩
  · intro d links
    by_cases new : d = s.created
    · rw [new, made, Node.newRadioClient] at links
      split at links <;> cases links
    · have before := (mild d new).linking links
      rw [show (s.clients d).radio.linking = false from hushed.unlinked inactive d] at before
      cases before
  · intro d
    by_cases new : d = s.created
    · rw [new, made]
      exact RadioClient.winding_of_open (newRadioClient_spec s.config).2.2.2
    · exact (mild d new).winding (hushed.winding d)
  · intro _ r points
    rw [frame.radioClient] at points
    cases points
    rw [made]
    exact .inr fresh
  · intro d deletes
    rcases closes with ⟨-, -, same⟩ | ⟨old, -, closing, deleting⟩
    · rw [same] at deletes
      rw [show s.deleting = some d from deletes] at undeleted
      cases undeleted
    · exact .inl (closing.trans (deleting.symm.trans deletes))
  · intro d apart
    have new : d ≠ s.created := by
      rintro rfl
      exact apart frame.radioClient
    rcases closes with ⟨without, -, -⟩ | ⟨old, points, closing, -⟩
    · have before := hushed.others d (by
        rw [show s.radioClient = none from without]
        exact fun points => by cases points)
      rw [open_] at before
      exact .inr ((mild d new).resting (before.resolve_left (by simp)))
    · by_cases same : d = old
      · subst same
        exact .inl closing
      · have before := hushed.others d (by
          rw [show s.radioClient = some old from points]
          exact fun equal => same (Option.some.inj equal).symm)
        rw [open_] at before
        exact .inr ((mild d new).resting (before.resolve_left (by simp)))

/-- An instruction dropped while there is no client. -/
theorem Hushed.taken (hushed : Hushed s) (rest : List Instr) (unpointed : s.radioClient = none) :
    Hushed { s with script := rest } where
  busy := hushed.busy
  winding := hushed.winding
  awaited _ r points := by
    rw [show s.radioClient = some r from points] at unpointed
    cases unpointed
  deleted := hushed.deleted
  others := hushed.others

theorem Hushed.execute (kept : Kept s) (hushed : Hushed s) {instr : Instr} {rest : List Instr}
    (script : s.script = instr :: rest) (open_ : s.closing = none) (undeleted : s.deleting = none)
    (moved : { s with script := rest }.execute instr = some t) : Hushed t := by
  cases instr with
  | clearError | setConnecting | clearConnecting | loadWaveConfig | setWaveFilePath
  | wireHandlers => exact hushed.execute_passive script rfl moved
  | testError | testConnecting | testConnected =>
      obtain ⟨later, rfl, waits⟩ := execute_test (by simp) moved
      exact hushed.of_same rfl (fun _ => id) rfl rfl rfl (by rw [script]; exact waits)
  | join =>
      have onward : awaitsFresh rest = true → awaitsFresh s.script = true := by
        rw [script]
        exact awaitsFresh_of_rest (by simp)
      simp only [Node.execute, Node.join] at moved
      split at moved
      · cases moved
        exact hushed.of_same rfl (fun _ => id) rfl rfl rfl onward
      · rename_i finished
        cases moved
        refine hushed.of_same rfl (fun c connects => ?_) rfl rfl rfl onward
        rw [show s.connectThread = some .finished from finished] at connects
        cases connects
      · cases moved
  | startThread =>
      have inactive := kept.inactive (by rw [script]; rfl)
      cases moved
      refine hushed.of_mild (fun _ => .refl _) ?_ rfl rfl rfl fun _ => ?_
      · intro c _ links
        rw [show (s.clients c).radio.linking = false from hushed.unlinked inactive c] at links
        cases links
      · rw [script]
        rfl
  | releaseThread =>
      have inactive := kept.inactive (by rw [script]; rfl)
      cases moved
      refine hushed.of_mild (fun _ => .refl _) ?_ rfl rfl rfl ?_
      · intro c _ links
        rw [show (s.clients c).radio.linking = false from hushed.unlinked inactive c] at links
        cases links
      · rw [script]
        exact awaitsFresh_of_rest (by simp)
  | close =>
      cases moved
      rw [Node.close]
      split
      · rename_i c points
        exact hushed.beginClose open_ undeleted points rfl rfl rfl rfl (.inl rfl)
      · rename_i unpointed
        exact hushed.taken rest unpointed
  | deleteClient =>
      simp only [Node.execute] at moved
      split at moved
      · rename_i c points
        cases moved
        exact hushed.beginClose open_ undeleted points rfl rfl rfl rfl (.inr rfl)
      · rename_i unpointed
        cases moved
        exact hushed.taken rest unpointed
  | createRadioClient =>
      have inactive := kept.inactive (by rw [script]; rfl)
      cases moved
      exact hushed.createRadioClient kept inactive open_ undeleted rest

/-- One step of a `close`: when it returns, its client rests. -/
theorem Hushed.stepClose (kept : Kept s) (hushed : Hushed s) {c : Nat}
    (closing : s.closing = some c) : Hushed (s.stepClose c) ∧
      ∀ d, s.closing = some d ∨ (s.clients d).radio.Resting →
        (s.stepClose c).closing = some d ∨ ((s.stepClose c).clients d).radio.Resting := by
  have running := kept.closed c closing
  have inactive : active letGo s = false := kept.guarded.inactive_of_closing closing
  have mild (d : Nat) : (s.clients d).radio.Mild ((s.stepClose c).clients d).radio :=
    mild_onClient (RadioClient.mild_stepClose _) d
  have here : ((s.stepClose c).clients c).radio = (s.clients c).radio.stepClose :=
    s.onClient_self c _
  have call : (s.stepClose c).closing =
      if (s.clients c).radio.stepClose.isClosing then some c else none := by
    rw [← here]
    rfl
  have quiet (d : Nat) (known : s.closing = some d ∨ (s.clients d).radio.Resting) :
      (s.stepClose c).closing = some d ∨ ((s.stepClose c).clients d).radio.Resting := by
    rcases known with same | resting
    · obtain rfl : c = d := Option.some.inj (closing.symm.trans same)
      cases returned : (s.clients c).radio.stepClose.isClosing with
      | true => exact .inl (by rw [call, returned]; rfl)
      | false =>
          rw [here]
          exact .inr (RadioClient.resting_of_returned (kept.owned c) (hushed.winding c)
            (hushed.unlinked inactive c) (kept.done inactive c) running returned)
    · exact .inr ((mild d).resting resting)
  refine ⟨⟨?_, ?_, ?_, ?_, ?_⟩, quiet⟩
  · exact fun d links => hushed.busy d ((mild d).linking links)
  · exact fun d => (mild d).winding (hushed.winding d)
  · exact fun waits r points => quiet r (hushed.awaited waits r points)
  · exact fun d deletes => quiet d (hushed.deleted d deletes)
  · exact fun d apart => quiet d (hushed.others d apart)

/-- A destructor ends: its client rests. -/
theorem Hushed.finishDelete (hushed : Hushed s) {c : Nat} (deleting : s.deleting = some c) :
    Hushed (s.finishDelete c) := by
  have kind (d : Nat) : ((s.finishDelete c).clients d).radio = (s.clients d).radio :=
    s.finishDelete_radio c d
  have pointer (r : Nat) (points : (s.finishDelete c).radioClient = some r) :
      s.radioClient = some r := by
    simp only [Node.finishDelete] at points
    split at points
    · cases points
    · exact points
  refine ⟨?_, ?_, ?_, ?_, ?_⟩
  · intro d links
    rw [kind] at links
    exact hushed.busy d links
  · intro d
    rw [kind]
    exact hushed.winding d
  · intro waits r points
    rw [kind]
    exact hushed.awaited waits r (pointer r points)
  · intro d deletes
    cases deletes
  · intro d apart
    rw [kind]
    by_cases same : d = c
    · subst same
      exact hushed.deleted d deleting
    · refine hushed.others d fun points => apart ?_
      have other : s.radioClient ≠ some c := by
        rw [points]
        exact fun equal => same (Option.some.inj equal)
      simp only [Node.finishDelete, if_neg other]
      exact points

theorem Hushed.executorStep (kept : Kept s) (hushed : Hushed s)
    (moved : s.executorStep = some t) : Hushed t := by
  rcases executorStep_cases moved with ⟨c, closing, rfl⟩ | ⟨c, -, deleting, rfl⟩ |
    ⟨instr, rest, closing, deleting, script, executed⟩
  · exact (hushed.stepClose kept closing).1
  · exact hushed.finishDelete deleting
  · exact hushed.execute kept script closing deleting executed

/-! ### The connect thread and the callbacks of a transport -/

/-- While a `connect` is pending only the client the node points to changes. -/
theorem Hushed.of_active (kept : Kept s) (hushed : Hushed s) (pending : active letGo s = true)
    {c : Nat} (points : s.radioClient = some c) {change : RadioClient → RadioClient}
    (clients : t.clients = (s.onClient c change).clients)
    (busy : ∀ d, (t.clients d).radio.linking = true → t.connectThread = some (.connecting d))
    (closing : (change (s.clients c).radio).isClosing = (s.clients c).radio.isClosing)
    (client : t.radioClient = s.radioClient) (closes : t.closing = s.closing)
    (deletes : t.deleting = s.deleting) (script : t.script = s.script) : Hushed t := by
  have open_ : s.closing = none := kept.guarded.closing pending
  have elsewhere {d : Nat} (other : d ≠ c) : t.clients d = s.clients d := by
    rw [clients, Node.onClient_ne s other]
  refine ⟨busy, ?_, ?_, ?_, ?_⟩
  · intro d
    by_cases same : d = c
    · subst same
      rw [clients, Node.onClient_self]
      refine RadioClient.winding_of_open (closing.trans (Bool.eq_false_iff.mpr fun running => ?_))
      rw [kept.closes d running] at open_
      cases open_
    · rw [elsewhere same]
      exact hushed.winding d
  · intro waits
    rw [script, not_awaitsFresh_of_harmless (kept.guarded.harmless pending)] at waits
    cases waits
  · intro d deleting
    rw [deletes, kept.guarded.deleting pending] at deleting
    cases deleting
  · intro d apart
    rw [client] at apart
    have other : d ≠ c := by
      rintro rfl
      exact apart points
    rw [closes, elsewhere other]
    exact hushed.others d apart

theorem Hushed.threadStep (kept : Kept s) (hushed : Hushed s) {succeeds : Bool}
    (moved : s.threadStep succeeds = some t) : Hushed t := by
  rcases threadStep_cases moved with ⟨c, thread, points, rfl⟩ | ⟨c, thread, rfl⟩ | ⟨thread, rfl⟩
  · have pending : active letGo s = true := by simp [active, thread]
    refine hushed.of_active kept pending points rfl ?_ (RadioClient.isClosing_beginConnect _ _) rfl
      rfl rfl rfl
    intro d links
    by_cases same : d = c
    · rw [same]
    · rw [Node.onClient_ne s same] at links
      have before := hushed.busy d links
      rw [thread] at before
      cases before
  · by_cases pending : active letGo s = true
    · have points := kept.guarded.owner pending c thread
      refine hushed.of_active kept pending points rfl ?_ (RadioClient.isClosing_stepConnect _ _) rfl
        rfl rfl rfl
      intro d links
      by_cases same : d = c
      · subst same
        have connecting : ((s.onClient d (RadioClient.stepConnect succeeds)).clients
            d).radio.isConnecting = true := by
          revert links
          cases ((s.onClient d (RadioClient.stepConnect succeeds)).clients d).radio with
          | mqtt calls => exact fun links => by cases links
          | udp calls => exact id
        simp only [connecting, if_true]
      · rw [Node.onClient_ne s same] at links
        have before := hushed.busy d links
        rw [thread] at before
        exact absurd (ConnectThread.connecting.inj (Option.some.inj before)).symm same
    · rw [Bool.not_eq_true] at pending
      have leaving : letGo (s.clients c).radio.phase = true := by
        simpa [active, thread] using pending
      refine hushed.of_mild (mild_onClient (RadioClient.mild_leave leaving)) ?_ rfl rfl rfl id
      intro d _ links
      have before := (mild_onClient (RadioClient.mild_leave leaving) d).linking links
      rw [hushed.unlinked pending d] at before
      cases before
  · refine hushed.of_same rfl (fun c connects => ?_) rfl rfl rfl id
    rw [thread] at connects
    cases connects

theorem Hushed.callBack (hushed : Hushed s) {c : Nat} {answer : RadioClient → Option RadioClient}
    (mild : ∀ r answered, answer r = some answered → r.Mild answered)
    (moved : s.callBack c answer = some t) : Hushed t := by
  obtain ⟨radio, answered, rfl⟩ := callBack_cases moved
  exact hushed.of_mild (mild_onClient (mild _ _ answered)) (fun _ connects _ => connects) rfl
    rfl rfl id

/-! ### Runs -/

theorem Hushed.step (kept : Kept s) (hushed : Hushed s) {a : Node.Action}
    (moved : s.step a = some t) : Hushed t := by
  cases a with
  | configure | reconnect | shutdown | destruct =>
      simp only [Node.step] at moved
      split at moved
      · cases moved
        exact hushed.of_same rfl (fun _ => id) rfl rfl rfl fun waits => by cases waits
      · cases moved
  | executor => exact hushed.executorStep kept moved
  | thread succeeds => exact hushed.threadStep kept moved
  | connack c handle rc accepted =>
      exact hushed.callBack (fun _ _ => RadioClient.mild_connack) moved
  | dropped c handle => exact hushed.callBack (fun _ _ => RadioClient.mild_dropped) moved
  | error c =>
      obtain ⟨-, rfl⟩ := error_cases moved
      exact hushed.of_same rfl (fun _ => id) rfl rfl rfl id

theorem hushed_start : Hushed {} := by
  refine ⟨?_, ?_, ?_, ?_, ?_⟩
  · intro c links
    cases links
  · intro c pc at_
    cases at_
  · intro waits
    cases waits
  · intro d deletes
    cases deletes
  · intro c _
    exact .inr ⟨rfl, rfl, fun pc at_ => by cases at_⟩

theorem hushed_of_reachable (reached : system.ReachableUnder (Undisturbed letGo) s) :
    Hushed s := by
  induction reached with
  | start first =>
      obtain rfl := first
      exact hushed_start
  | step before _ moved hushed => exact hushed.step (kept_of_reachable before) moved

end Hushed

end V2xRosDriver.Driver
