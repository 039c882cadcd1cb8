/-
# Driver.ConnectingFlag -- does `connecting_` track the connect thread?

`pre_spin` sets `connecting_` and starts a thread whose last step clears it.  In between
`pre_spin` joins the thread before, whose last step clears the same flag, and
`reconnectSrv` clears it by itself: with a thread still at work the flag is lost, and the
thread started next is not tracked at all (`reconnect_untracks`).

As long as `reconnectSrv` comes to its write only when the last thread has ended, the flag
tracks the thread (`Flagged`).  If besides no callback pulls the client from under a
pending `connect`, a thread about to call `connect` finds a client nobody has connected
(`tracks_of_reachable`).
-/
import V2xRosDriver.Driver.Sessions
import V2xRosDriver.Driver.Steps

namespace V2xRosDriver.Driver

set_option autoImplicit false

open V2xRosDriver.Theory.Transition
open V2xRosDriver.Radio
open RadioClient (letGo)

/-! ## The flag and the thread -/

/-- The thread started last has not executed its last step. -/
def unfinished (s : Node) : Bool :=
  match s.connectThread with
  | none | some .finished => false
  | some _ => true

/-- `connecting_` is cleared by a callback only when the thread started last has ended. -/
def ClearsEnded (s : Node) (a : Node.Action) : Prop :=
  match a with
  | .executor => s.script.head? = some .clearConnecting → unfinished s = false
  | _ => True

instance (s : Node) : (a : Node.Action) → Decidable (ClearsEnded s a)
  | .executor => inferInstanceAs (Decidable (_ → _))
  | .configure _ _ _ | .reconnect | .shutdown | .destruct => isTrue trivial
  | .thread _ | .connack _ _ _ _ | .dropped _ _ | .error _ => isTrue trivial

/-- The callback is in the middle of `pre_spin`, past its test of `connecting_`. -/
def ahead : List Instr → Bool
  | .testConnected :: _ | .startThread :: _ => true
  | .setConnecting :: rest | .join :: rest => ahead rest
  | _ => false

/-- The callback has set `connecting_` and is still to start the thread. -/
def due : List Instr → Bool
  | .startThread :: _ => true
  | .join :: rest => due rest
  | _ => false

/-- Nothing but the flag and the join comes in front of what is ahead. -/
def inLine : List Instr → Bool
  | [] => true
  | instr :: rest =>
      (!ahead rest || decide (instr = .setConnecting ∨ instr = .join)) && inLine rest

theorem ahead_of_due {script : List Instr} (starts : due script = true) : ahead script = true := by
  induction script with
  | nil => cases starts
  | cons instr rest ih =>
      cases instr with
      | startThread => rfl
      | join => exact ih starts
      | _ => cases starts

/-- While a thread is unfinished the flag is set; while `pre_spin` is under way there is none,
and behind its write the flag stays set. -/
structure Flagged (s : Node) : Prop where
  tracked : unfinished s = true → s.connecting = true
  inLine : inLine s.script = true
  ended : ahead s.script = true → unfinished s = false
  flagged : due s.script = true → s.connecting = true

section Flagged

variable {s t : Node}

theorem unfinished_congr (thread : t.connectThread = s.connectThread) :
    unfinished t = unfinished s := by
  rw [unfinished, unfinished, thread]

theorem Flagged.congr (flagged : Flagged s) (thread : t.connectThread = s.connectThread)
    (connecting : t.connecting = s.connecting) (script : t.script = s.script) : Flagged t := by
  obtain ⟨tracked, inLine, ended, flagged⟩ := flagged
  refine ⟨?_, ?_, ?_, ?_⟩
  · rw [unfinished_congr thread, connecting]
    exact tracked
  · rw [script]
    exact inLine
  · rw [unfinished_congr thread, script]
    exact ended
  · rw [connecting, script]
    exact flagged

/-- A callback begins that is not past its test. -/
theorem Flagged.begin (flagged : Flagged s) {script : List Instr} (inLine : Driver.inLine script)
    (early : ahead script = false) {config : Config} {destroyed : Bool} :
    Flagged { s with config := config, script := script, destroyed := destroyed } where
  tracked := flagged.tracked
  inLine := inLine
  ended past := absurd (early.symm.trans past) (by decide)
  flagged starts := absurd (early.symm.trans (ahead_of_due starts)) (by decide)

/-- What is ahead of anything but the flag and the join is nothing. -/
theorem early_of_inLine {instr : Instr} {rest : List Instr}
    (inLine : Driver.inLine (instr :: rest) = true)
    (other : instr ≠ .setConnecting ∧ instr ≠ .join) : ahead rest = false := by
  simp only [Driver.inLine, Bool.and_eq_true, Bool.or_eq_true, Bool.not_eq_true',
    decide_eq_true_eq] at inLine
  rcases inLine.1 with early | same
  · exact early
  · exact absurd same (not_or.mpr other)

/-- An instruction that leaves the flag, the thread and the rest of the callback alone. -/
theorem Flagged.plain (flagged : Flagged s) {instr : Instr} {rest : List Instr}
    (script : s.script = instr :: rest) (other : instr ≠ .setConnecting ∧ instr ≠ .join)
    (thread : t.connectThread = s.connectThread) (connecting : t.connecting = s.connecting)
    (left : t.script = rest) : Flagged t := by
  have inLine := script ▸ flagged.inLine
  have early := early_of_inLine inLine other
  refine ⟨?_, ?_, ?_, ?_⟩
  · rw [unfinished_congr thread, connecting]
    exact flagged.tracked
  · rw [left]
    exact (Bool.and_eq_true_iff.mp inLine).2
  · rw [left, early]
    exact fun past => absurd past (by decide)
  · rw [left]
    intro starts
    exact absurd (early.symm.trans (ahead_of_due starts)) (by decide)

/-- One instruction of a callback. -/
theorem Flagged.execute (flagged : Flagged s) {instr : Instr} {rest : List Instr}
    (script : s.script = instr :: rest)
    (clears : instr = .clearConnecting → unfinished s = false)
    (does : Does { s with script := rest } instr t) : Flagged t := by
  have inLine := script ▸ flagged.inLine
  have behind : Driver.inLine rest = true := (Bool.and_eq_true_iff.mp inLine).2
  have early := early_of_inLine inLine
  cases does with
  | aside plain frame =>
      have other : instr ≠ .setConnecting ∧ instr ≠ .join := by
        constructor <;> rintro rfl <;> cases plain
      exact flagged.plain script other frame.connectThread frame.connecting frame.script
  | createRadioClient =>
      have frame := createRadioClient_frame { s with script := rest }
      exact flagged.plain script (by simp) frame.connectThread frame.connecting frame.script
  | noError | alreadyConnecting | connected | loadWaveConfig =>
      exact flagged.plain script (by simp) rfl rfl rfl
  | closeFirst =>
      have none := early (by simp)
      exact ⟨flagged.tracked, by simp [Driver.inLine, ahead, none, behind],
        (fun past => by cases past), (fun starts => by cases starts)⟩
  | notConnecting idle =>
      have none := early (by simp)
      refine ⟨flagged.tracked, by simp [Driver.inLine, none, behind], fun _ => ?_,
        (fun starts => by cases starts)⟩
      -- a thread that is not finished would have the flag set
      rw [Bool.eq_false_iff]
      intro working
      exact absurd (idle.symm.trans (flagged.tracked working)) (by decide)
  | notConnected offline =>
      have none := early (by simp)
      have ended := flagged.ended (by rw [script]; rfl)
      exact ⟨flagged.tracked, by simp [Driver.inLine, none, behind], fun _ => ended,
        (fun starts => by cases starts)⟩
  | setConnecting =>
      exact ⟨fun _ => rfl, behind, fun past => flagged.ended (by rw [script]; exact past),
        fun _ => rfl⟩
  | clearConnecting =>
      have ended := clears rfl
      have none := early (by simp)
      refine ⟨fun working => absurd (ended.symm.trans working) (by decide), behind, ?_, ?_⟩
      · exact fun past => absurd (none.symm.trans past) (by decide)
      · exact fun starts => absurd (none.symm.trans (ahead_of_due starts)) (by decide)
  | noThread without =>
      exact ⟨flagged.tracked, behind, fun past => flagged.ended (by rw [script]; exact past),
        fun starts => flagged.flagged (by rw [script]; exact starts)⟩
  | join ended =>
      exact ⟨(fun working => by cases working), behind, fun _ => rfl,
        fun starts => flagged.flagged (by rw [script]; exact starts)⟩
  | startThread =>
      have set := flagged.flagged (by rw [script]; rfl)
      have none := early (by simp)
      refine ⟨fun _ => set, behind, ?_, fun _ => set⟩
      exact fun past => absurd (none.symm.trans past) (by decide)
  | releaseThread =>
      have none := early (by simp)
      refine ⟨(fun working => by cases working), behind, fun _ => rfl, ?_⟩
      exact fun starts => absurd (none.symm.trans (ahead_of_due starts)) (by decide)

/-- The thread moves only where nothing is ahead. -/
theorem Flagged.threadStep (flagged : Flagged s) {succeeds : Bool}
    (moved : s.threadStep succeeds = some t) : Flagged t := by
  have working : unfinished s = true := by
    rcases threadStep_cases moved with ⟨c, thread, -, -⟩ | ⟨c, thread, -⟩ | ⟨thread, -⟩
    all_goals rw [unfinished, thread]
  have early : ahead s.script = false := by
    rw [Bool.eq_false_iff]
    intro past
    exact absurd (working.symm.trans (flagged.ended past)) (by decide)
  have behind : t.script = s.script ∧ (t.connecting = s.connecting ∨ unfinished t = false) := by
    rcases threadStep_cases moved with ⟨c, -, -, rfl⟩ | ⟨c, -, rfl⟩ | ⟨-, rfl⟩
    · exact ⟨rfl, .inl rfl⟩
    · exact ⟨rfl, .inl rfl⟩
    · exact ⟨rfl, .inr rfl⟩
  obtain ⟨script, kept⟩ := behind
  refine ⟨?_, ?_, ?_, ?_⟩
  · intro still
    rcases kept with connecting | ended
    · rw [connecting]
      exact flagged.tracked working
    · rw [ended] at still
      cases still
  · rw [script]
    exact flagged.inLine
  · rw [script, early]
    exact fun past => absurd past (by decide)
  · rw [script]
    exact fun starts => absurd (early.symm.trans (ahead_of_due starts)) (by decide)

theorem Flagged.executorStep (flagged : Flagged s) (clears : ClearsEnded s .executor)
    (moved : s.executorStep = some t) : Flagged t := by
  rcases executorStep_cases moved with ⟨c, -, rfl⟩ | ⟨c, -, -, rfl⟩ |
    ⟨instr, rest, -, -, script, executed⟩
  · exact flagged.congr rfl rfl rfl
  · exact flagged.congr rfl rfl rfl
  · refine flagged.execute script ?_ (execute_does executed)
    rintro rfl
    exact clears (by rw [script]; rfl)

theorem Flagged.step (flagged : Flagged s) {a : Node.Action} (clears : ClearsEnded s a)
    (moved : s.step a = some t) : Flagged t := by
  cases a with
  | configure config path file =>
      obtain ⟨-, rfl⟩ := configure_cases moved
      exact flagged.begin rfl rfl
  | reconnect =>
      obtain ⟨-, -, rfl⟩ := reconnect_cases moved
      exact flagged.begin rfl rfl
  | shutdown =>
      obtain ⟨-, rfl⟩ := shutdown_cases moved
      exact flagged.begin rfl rfl
  | destruct =>
      obtain ⟨-, rfl⟩ := destruct_cases moved
      exact flagged.begin rfl rfl
  | executor => exact flagged.executorStep clears moved
  | thread succeeds => exact flagged.threadStep moved
  | connack c handle rc accepted =>
      obtain ⟨radio, -, rfl⟩ := callBack_cases moved
      exact flagged.congr rfl rfl rfl
  | dropped c handle =>
      obtain ⟨radio, -, rfl⟩ := callBack_cases moved
      exact flagged.congr rfl rfl rfl
  | error c =>
      obtain ⟨-, rfl⟩ := error_cases moved
      exact flagged.congr rfl rfl rfl

theorem Flagged.of_start : Flagged {} := ⟨nofun, rfl, nofun, nofun⟩

end Flagged

/-! ## The client a thread connects -/

namespace RadioClient

variable {r r' : RadioClient}

theorem phase_serves {script : List Instr} (serves : Serves script r r') :
    r'.phase = r.phase := by
  cases serves with
  | nothing => rfl
  | setWaveFilePath => exact phase_setWaveFilePath _ r
  | beginClose => exact phase_beginClose r
  | stepClose => exact phase_stepClose r
  | connack answer => exact phase_connack answer
  | dropped answer => exact phase_dropped answer

theorem isConnecting_eq (r : RadioClient) : r.isConnecting = r.phase.isSome := by
  cases r with
  | mqtt calls => simp [isConnecting, phase]
  | udp calls => simp [isConnecting, phase]

@[simp] theorem connected_setWaveFilePath (path : String) (r : RadioClient) :
    (r.setWaveFilePath path).connected = r.connected := by
  cases r <;> rfl

/-- A client without a handle hears nothing from the broker. -/
theorem deaf_of_noHandle (owned : r.Owned) (cleared : r.NoHandle) (h : Nat) :
    (∀ rc accepted, r.connack h rc accepted = none) ∧ r.dropped h = none := by
  cases r with
  | udp calls => exact ⟨fun _ _ => rfl, rfl⟩
  | mqtt calls =>
      have silent : ¬ calls.client.session.CanCallBack h := by
        rintro ⟨valid, -, -, alive⟩
        have current := Mqtt.Owned.live owned h valid alive
        rw [show calls.client.session.mosq = none from cleared] at current
        cases current
      exact ⟨fun _ _ => if_neg silent, if_neg silent⟩

end RadioClient

/-- The callback found the client not connected and is to start a thread. -/
def tested : List Instr → Bool
  | .startThread :: _ => true
  | .setConnecting :: rest | .join :: rest => tested rest
  | _ => false

theorem ahead_of_tested {script : List Instr} (past : tested script = true) :
    ahead script = true := by
  induction script with
  | nil => cases past
  | cons instr rest ih =>
      cases instr with
      | startThread => rfl
      | setConnecting | join => exact ih past
      | _ => cases past

theorem awaitsFresh_of_tested {script : List Instr} (past : tested script = true) :
    awaitsFresh script = true := by
  induction script with
  | nil => cases past
  | cons instr rest ih =>
      cases instr with
      | startThread => rfl
      | setConnecting | join => exact ih past
      | _ => cases past

/-- Only the thread's client is in a `connect` call, and from the test of `pre_spin` to the call
of `connect` the client pointed to is not connected.  Nothing of the kind happens once the
node's destructor has begun. -/
structure Placed (s : Node) : Prop where
  busy : ∀ c, (s.clients c).radio.phase ≠ none →
    s.connectThread = some (.connecting c) ∨ s.destroyed = true
  dead : s.destroyed = true → s.connectThread ≠ some .launched ∧
    ∀ later ∈ s.script, later = .deleteClient ∨ later = .releaseThread
  release : .releaseThread ∈ s.script → s.destroyed = true
  offline : tested s.script = true → s.closing = none ∧
    ∀ r, s.radioClient = some r → (s.clients r).radio.connected = false
  launched : s.connectThread = some .launched → (∀ c, (s.clients c).radio.phase = none) ∧
    ∀ r, s.radioClient = some r → (s.clients r).radio.connected = false

section Placed

variable {s t : Node}

/-- A passive instruction connects and disconnects nothing. -/
theorem connected_passive {instr : Instr} (passive : instr.passive = true)
    (moved : s.execute instr = some t) (c : Nat) :
    (t.clients c).radio.connected = (s.clients c).radio.connected := by
  cases instr with
  | setWaveFilePath path =>
      simp only [Node.execute] at moved
      split at moved
      · cases moved
        exact s.forall_onClient
          (P := fun d radio => radio.connected = (s.clients d).radio.connected) (by simp)
          (fun _ _ => rfl) c
      · cases moved
        rfl
  | wireHandlers =>
      simp only [Node.execute] at moved
      split at moved
      · cases moved
        rw [Node.wireError_radio]
      · cases moved
        rfl
  | clearError | setConnecting | clearConnecting | loadWaveConfig =>
      cases moved
      rfl
  | _ => cases passive

/-- No step of the executor begins a `connect`. -/
theorem phase_executorStep (moved : s.executorStep = some t) {c : Nat}
    (working : (t.clients c).radio.phase ≠ none) : (s.clients c).radio.phase ≠ none := by
  rcases executorStep_serves moved c with ⟨serves, -⟩ | ⟨-, -, serves⟩
  · rwa [RadioClient.phase_serves serves] at working
  · rw [RadioClient.phase_serves serves, Node.newRadioClient] at working
    split at working <;> exact absurd rfl working

/-- An instruction executed while a thread is about to call `connect`. -/
theorem Placed.execute_launched (placed : Placed s) (kept : Kept s) {instr : Instr}
    {rest : List Instr} (script : s.script = instr :: rest)
    (executed : { s with script := rest }.execute instr = some t)
    (before : s.connectThread = some .launched) {r : Nat} (points : t.radioClient = some r) :
    (t.clients r).radio.connected = false := by
  have mild : harmless (instr :: rest) = true := by
    rw [← script]
    exact kept.guarded.harmless (by simp [active, before])
  by_cases passive : instr.passive = true
  · have same := (execute_passive passive executed).1
    rw [connected_passive passive executed]
    exact (placed.launched before).2 r (same.client ▸ points)
  · -- a join waits
    cases instr with
    | join => simp [Node.execute, Node.join, before] at executed
    | _ => first | exact absurd rfl passive | cases mild

/-- One instruction of a callback. -/
theorem Placed.execute (placed : Placed s) (kept : Kept s) (flagged : Flagged s) {instr : Instr}
    {rest : List Instr} (open_ : s.closing = none) (script : s.script = instr :: rest)
    (executed : { s with script := rest }.execute instr = some t)
    (moved : s.executorStep = some t) : Placed t := by
  have does := execute_does executed
  have destroyed : t.destroyed = s.destroyed := does.destroyed
  have head : instr ∈ s.script := by simp [script]
  have early := early_of_inLine (script ▸ flagged.inLine)
  -- the thread that starts finds no other at work
  have free (starts : instr = .startThread) (c : Nat) : (s.clients c).radio.phase = none := by
    subst starts
    have ended := flagged.ended (by rw [script]; rfl)
    by_contra working
    rcases placed.busy c working with connects | gone
    · simp [unfinished, connects] at ended
    · simpa using (placed.dead gone).2 _ head
  refine ⟨?_, ?_, ?_, ?_, ?_⟩
  · intro c working
    have before := phase_executorStep moved working
    rw [destroyed]
    rcases placed.busy c before with connects | gone
    · rcases does.thread with same | ⟨-, ended, -⟩ | ⟨starts, -⟩ | ⟨releases, -⟩
      · exact .inl (same.trans connects)
      · exact absurd (connects.symm.trans ended) (by simp)
      · exact absurd (free starts c) before
      · exact .inr (placed.release (releases ▸ head))
    · exact .inr gone
  · intro gone
    rw [destroyed] at gone
    obtain ⟨unlaunched, only⟩ := placed.dead gone
    have left : ∀ later ∈ rest, later = .deleteClient ∨ later = .releaseThread :=
      fun later waits => only later (by rw [script]; exact List.mem_cons_of_mem _ waits)
    rcases only instr head with rfl | rfl
    · cases does with
      | aside plain frame =>
          rw [frame.connectThread, frame.script]
          exact ⟨unlaunched, left⟩
    · cases does with
      | aside plain => cases plain
      | releaseThread => exact ⟨by simp, left⟩
  · intro waits
    rw [destroyed]
    rcases does.script waits with before | pushed
    · exact placed.release (by rw [script]; exact List.mem_cons_of_mem _ before)
    · cases pushed
  · intro past
    have none (other : instr ≠ .setConnecting ∧ instr ≠ .join) : tested rest ≠ true :=
      fun found => absurd ((early other).symm.trans (ahead_of_tested found)) (by decide)
    have before (found : tested (instr :: rest) = true) := placed.offline (script ▸ found)
    cases does with
    | aside plain frame =>
        have other : instr ≠ .setConnecting ∧ instr ≠ .join := by
          constructor <;> rintro rfl <;> cases plain
        rw [frame.script] at past
        exact absurd past (none other)
    | createRadioClient =>
        have frame := createRadioClient_frame { s with script := rest }
        rw [frame.script] at past
        exact absurd past (none (by simp))
    | closeFirst | notConnecting => cases past
    | notConnected offline =>
        refine ⟨open_, fun r points => ?_⟩
        simpa [Node.clientConnected, show s.radioClient = some r from points] using offline
    | setConnecting | noThread | join => exact before past
    | _ => exact absurd past (none (by simp))
  · intro starts
    rcases does.thread with same | ⟨-, -, none⟩ | ⟨launches, -⟩ | ⟨-, none⟩
    · have before : s.connectThread = some .launched := same.symm.trans starts
      refine ⟨fun c => ?_,
        fun r points => placed.execute_launched kept script executed before points⟩
      by_contra working
      exact phase_executorStep moved working ((placed.launched before).1 c)
    · exact absurd (none.symm.trans starts) (by simp)
    · refine ⟨fun c => ?_, ?_⟩
      · by_contra working
        exact phase_executorStep moved working (free launches c)
      · subst launches
        cases executed
        exact (placed.offline (by rw [script]; rfl)).2
    · exact absurd (none.symm.trans starts) (by simp)

/-- The executor in a `close`, at the end of a destructor, or at an instruction. -/
theorem Placed.executorStep (placed : Placed s) (kept : Kept s) (flagged : Flagged s)
    (moved : s.executorStep = some t) : Placed t := by
  rcases executorStep_cases moved with ⟨c, closing, rfl⟩ | ⟨c, open_, deleting, rfl⟩ |
    ⟨instr, rest, open_, -, script, executed⟩
  · have calm : s.connectThread ≠ some .launched := by
      intro launched
      have none := kept.guarded.closing (by simp [active, launched])
      rw [closing] at none
      cases none
    refine ⟨fun d working => placed.busy d (phase_executorStep moved working), placed.dead,
      placed.release, fun past => ?_, fun starts => absurd starts calm⟩
    have none := (placed.offline past).1
    rw [closing] at none
    cases none
  · have calm : s.connectThread ≠ some .launched := by
      intro launched
      have none := kept.guarded.deleting (by simp [active, launched])
      rw [deleting] at none
      cases none
    refine ⟨fun d working => placed.busy d (phase_executorStep moved working), placed.dead,
      placed.release, fun past => ?_, fun starts => absurd starts calm⟩
    obtain ⟨quiet, unconnected⟩ := placed.offline past
    refine ⟨quiet, fun r points => ?_⟩
    rw [Node.finishDelete_radio]
    apply unconnected
    simp only [Node.finishDelete] at points
    split at points
    · cases points
    · exact points
  · exact placed.execute kept flagged open_ script executed moved

/-- The thread calls `connect` on the client the node points to, and works on no other. -/
theorem Placed.threadStep (placed : Placed s) (flagged : Flagged s) {succeeds : Bool}
    (moved : s.threadStep succeeds = some t) : Placed t := by
  have working : unfinished s = true := by
    rcases threadStep_cases moved with ⟨c, thread, -, -⟩ | ⟨c, thread, -⟩ | ⟨thread, -⟩
    all_goals rw [unfinished, thread]
  have early : tested s.script ≠ true := by
    intro past
    exact absurd (working.symm.trans (flagged.ended (ahead_of_tested past))) (by decide)
  rcases threadStep_cases moved with ⟨c, thread, points, rfl⟩ | ⟨c, thread, rfl⟩ | ⟨thread, rfl⟩
  · obtain ⟨idle, -⟩ := placed.launched thread
    refine ⟨fun d busy => ?_, fun gone => ⟨by simp, (placed.dead gone).2⟩, placed.release,
      fun past => absurd past early, (fun starts => by cases starts)⟩
    by_cases same : d = c
    · exact .inl (same ▸ rfl)
    · rw [Node.onClient_ne _ same] at busy
      exact absurd (idle d) busy
  · refine ⟨fun d busy => ?_, fun gone => ⟨?_, (placed.dead gone).2⟩, placed.release,
      fun past => absurd past early, fun starts => ?_⟩
    · by_cases same : d = c
      · subst same
        left
        have connecting : ((s.onClient d (RadioClient.stepConnect succeeds)).clients
            d).radio.isConnecting = true := by
          rw [RadioClient.isConnecting_eq, Option.isSome_iff_ne_none]
          exact busy
        rw [if_pos connecting]
      · rw [Node.onClient_ne _ same] at busy
        rcases placed.busy d busy with connects | gone
        · rw [thread] at connects
          cases connects
          exact absurd rfl same
        · exact .inr gone
    · split <;> simp
    · simp only [Option.some.injEq] at starts
      split at starts <;> cases starts
  · refine ⟨fun d busy => ?_, fun gone => ⟨by simp, (placed.dead gone).2⟩, placed.release,
      fun past => absurd past early, (fun starts => by cases starts)⟩
    rcases placed.busy d busy with connects | gone
    · exact absurd (thread.symm.trans connects) (by simp)
    · exact .inr gone

/-- No callback of a transport reaches a client that is about to be connected. -/
theorem Placed.callBack (placed : Placed s) (kept : Kept s) {c : Nat}
    {answer : RadioClient → Option RadioClient}
    (phases : ∀ r answered, answer r = some answered → answered.phase = r.phase)
    (deaf : ∀ r : RadioClient, r.Owned → r.NoHandle → answer r = none)
    (moved : s.callBack c answer = some t) : Placed t := by
  obtain ⟨radio, answered, rfl⟩ := callBack_cases moved
  have phase (d : Nat) : ((s.onClient c fun _ => radio).clients d).radio.phase =
      (s.clients d).radio.phase := s.onClient_phase c d (phases _ _ answered)
  have other {r : Nat} (cleared : (s.clients r).radio.NoHandle) : r ≠ c := by
    rintro rfl
    rw [deaf _ (kept.owned r) cleared] at answered
    cases answered
  refine ⟨fun d busy => placed.busy d (phase d ▸ busy), placed.dead, placed.release,
    fun past => ?_, fun starts => ?_⟩
  · obtain ⟨quiet, unconnected⟩ := placed.offline past
    refine ⟨quiet, fun r points => ?_⟩
    have cleared : (s.clients r).radio.NoHandle := by
      rcases kept.awaited (awaitsFresh_of_tested past) r points with closing | cleared
      · exact absurd (quiet.symm.trans closing) (by simp)
      · exact cleared
    rw [Node.onClient_ne _ (other cleared)]
    exact unconnected r points
  · obtain ⟨idle, unconnected⟩ := placed.launched starts
    refine ⟨fun d => (phase d).trans (idle d), fun r points => ?_⟩
    rw [Node.onClient_ne _ (other (kept.launched starts r points))]
    exact unconnected r points

/-- A callback begins that has not tested anything yet. -/
theorem Placed.begin (placed : Placed s) (alive : s.destroyed = false) {script : List Instr}
    (early : tested script ≠ true) (keeps : .releaseThread ∉ script) {config : Config} :
    Placed { s with config := config, script := script } where
  busy := placed.busy
  dead gone := absurd (alive.symm.trans gone) (by decide)
  release waits := absurd waits keeps
  offline past := absurd past early
  launched := placed.launched

theorem Placed.step (placed : Placed s) (kept : Kept s) (flagged : Flagged s) {a : Node.Action}
    (undisturbed : Undisturbed letGo s a) (moved : s.step a = some t) : Placed t := by
  cases a with
  | configure config path file =>
      obtain ⟨idle, rfl⟩ := configure_cases moved
      refine placed.begin idle.2.2.2 ?_ ?_
      · exact Bool.false_ne_true
      · simp [Node.handleOnConfigure, Node.preSpin]
  | reconnect =>
      obtain ⟨idle, -, rfl⟩ := reconnect_cases moved
      refine placed.begin idle.2.2.2 ?_ ?_
      · exact Bool.false_ne_true
      · simp [Node.reconnectSrv, Node.preSpin]
  | shutdown =>
      obtain ⟨idle, rfl⟩ := shutdown_cases moved
      refine placed.begin idle.2.2.2 ?_ ?_
      · exact Bool.false_ne_true
      · simp [Node.handleOnShutdown]
  | destruct =>
      obtain ⟨-, rfl⟩ := destruct_cases moved
      refine ⟨fun c working => .inr rfl, fun _ => ⟨not_launched (undisturbed rfl), ?_⟩,
        fun _ => rfl, (fun past => by cases past), placed.launched⟩
      simp [Node.destructor]
  | executor => exact placed.executorStep kept flagged moved
  | thread succeeds => exact placed.threadStep flagged moved
  | connack c handle rc accepted =>
      exact placed.callBack kept (fun _ _ => RadioClient.phase_connack)
        (fun _ owned cleared => (RadioClient.deaf_of_noHandle owned cleared handle).1 rc accepted)
        moved
  | dropped c handle =>
      exact placed.callBack kept (fun _ _ => RadioClient.phase_dropped)
        (fun _ owned cleared => (RadioClient.deaf_of_noHandle owned cleared handle).2) moved
  | error c =>
      obtain ⟨-, rfl⟩ := error_cases moved
      exact ⟨placed.busy, placed.dead, placed.release, placed.offline, placed.launched⟩

theorem Placed.of_start : Placed {} :=
  ⟨fun _ working => absurd rfl working, nofun, nofun, nofun, nofun⟩

end Placed

/-! ## Runs -/

/-- While the thread started last is unfinished, `connecting_` is set; and a thread about to
call `connect` has a client no attempt was made on: it is not connected, no other call of
`connect` is in progress, and no attempt has left it a handle. -/
structure Tracks (s : Node) : Prop where
  flag : unfinished s = true → s.connecting = true
  calls : s.connectThread = some .launched → ∀ r, s.radioClient = some r →
    (s.clients r).radio.connected = false ∧ (s.clients r).radio.isConnecting = false ∧
      (s.clients r).radio.NoHandle

/-- `connecting_` is cleared by `reconnectSrv` only when the last thread has ended, and no
callback that closes, replaces or deletes a client begins while a `connect` is pending. -/
def Settles (s : Node) (a : Node.Action) : Prop := ClearsEnded s a ∧ Undisturbed letGo s a

instance (s : Node) (a : Node.Action) : Decidable (Settles s a) :=
  inferInstanceAs (Decidable (_ ∧ _))

/-- **The flag tracks the connect thread.**  In every run in which `reconnectSrv` clears
`connecting_` only behind the end of the last thread, and reconnect, configure and the node's
destructor begin only while no `connect` is pending, the flag is set as long as the thread
started last is unfinished, and `connect` is called on clients without an earlier attempt
only. -/
theorem tracks_of_reachable {s : Node} (reached : system.ReachableUnder Settles s) :
    Tracks s := by
  have invariant : Kept s ∧ Flagged s ∧ Placed s := by
    apply reached.invariant
    · rintro _ rfl
      exact ⟨.of_start, .of_start, .of_start⟩
    · rintro s a t ⟨kept, flagged, placed⟩ ⟨clears, undisturbed⟩ moved
      exact ⟨kept.step undisturbed moved, flagged.step clears moved,
        placed.step kept flagged undisturbed moved⟩
  obtain ⟨kept, flagged, placed⟩ := invariant
  refine ⟨flagged.tracked, fun starts r points => ?_⟩
  obtain ⟨idle, unconnected⟩ := placed.launched starts
  refine ⟨unconnected r points, ?_, kept.launched starts r points⟩
  rw [RadioClient.isConnecting_eq, idle r]
  rfl

/-- A connect to its end, then a reconnect up to the start of its thread. -/
def trackedReconnect : List Node.Action :=
  [configureMqtt, List.replicate 7 (.thread true), [.reconnect],
    List.replicate 16 .executor].flatten

def trackedNode : Node := (system.runUnder Settles {} trackedReconnect).getD {}

theorem trackedNode_reached : system.ReachableUnder Settles trackedNode := by
  have succeeds : (system.runUnder Settles {} trackedReconnect).isSome = true := rfl
  exact System.reachableUnder_getD (.start rfl) succeeds {}

theorem second_thread_tracked :
    trackedNode.connectThread = some .launched ∧ trackedNode.script = [] ∧ Tracks trackedNode :=
  ⟨rfl, rfl, tracks_of_reachable trackedNode_reached⟩

/-- A reconnect before the first connect thread has begun; `pre_spin` waits for that thread. -/
def untrackedReconnect : List Node.Action :=
  [configureMqtt, [.reconnect], List.replicate 8 .executor, List.replicate 7 (.thread true),
    List.replicate 2 .executor].flatten

def untrackedNode : Node := (system.run {} untrackedReconnect).getD {}

/-- `pre_spin` has returned, its thread is still to run, and `connecting_` is false: the thread
before cleared it while `pre_spin` was waiting. -/
theorem reconnect_untracks : ¬ ∀ s, system.Reachable s → s.Idle → Tracks s := by
  intro tracks
  have succeeds : (system.run {} untrackedReconnect).isSome = true := rfl
  have reached : system.Reachable untrackedNode := System.reachable_getD (.start rfl) succeeds {}
  have idle : untrackedNode.Idle := ⟨rfl, rfl, rfl, rfl⟩
  have working : unfinished untrackedNode = true := rfl
  have cleared : untrackedNode.connecting = false := rfl
  exact absurd (cleared.symm.trans ((tracks untrackedNode reached idle).flag working)) (by decide)

end V2xRosDriver.Driver
