/-
# Mqtt.LibraryCount -- is the library initialised while a client lives?

`lib_ref_count_` counts the clients, and the one that finds it at zero initialises the
library, as the one that brings it back to zero cleans up.  The count and the call are two
steps.  Between them a second constructor counts itself, finds that it is not the first and
returns, with nothing initialised yet (`second_client_uninitialised`); and a destructor that
was the last one cleans up behind a constructor that has become the first one again.

`Balanced` is the bookkeeping that all orders keep: the calls that are still due make up for
the difference between those made.  From it the library is initialised for every client alive,
in every state of a run, if and only if no constructor and no cleanup overtakes an init that
is due (`sound_iff_orderly`).
-/
import V2xRosDriver.Theory.Transition

namespace V2xRosDriver.Mqtt

set_option autoImplicit false

open V2xRosDriver.Theory.Transition

/-- Where a client is between the beginning of its constructor and the end of its destructor. -/
inductive Lifetime where
  | initDue     -- counted as the first one, about to call `mosquitto_lib_init`
  | returning   -- all that is left of the constructor is to return
  | alive
  | closed      -- the destructor has called `close`, and is about to count down
  | cleanupDue  -- was the last one, about to call `mosquitto_lib_cleanup`
  | gone
  deriving DecidableEq, Repr

/-- `lib_ref_count_`, the calls of libmosquitto that have completed, and the clients in the order
of their `fetch_add`. -/
structure Library where
  libRefCount : Nat := 0
  inits : Nat := 0
  cleanups : Nat := 0
  clients : List Lifetime := []
  deriving DecidableEq, Repr

namespace Library

/-- A step of a constructor or a destructor; `fetchAdd` begins a new client. -/
inductive Action where
  | fetchAdd
  | libInit (client : Nat)
  | returns (client : Nat)
  | close (client : Nat)
  | fetchSub (client : Nat)
  | libCleanup (client : Nat)
  deriving DecidableEq, Repr

/-- Client `i` goes from one place to the next. -/
def move (s : Library) (i : Nat) (before after : Lifetime) : Option Library :=
  if s.clients[i]? = some before then some { s with clients := s.clients.set i after } else none

def step (s : Library) : Action → Option Library
  | .fetchAdd =>
      some { s with
        libRefCount := s.libRefCount + 1
        clients := s.clients ++ [if s.libRefCount = 0 then .initDue else .returning] }
  | .libInit i => { s with inits := s.inits + 1 }.move i .initDue .returning
  | .returns i => s.move i .returning .alive
  | .close i => s.move i .alive .closed
  | .fetchSub i =>
      { s with libRefCount := s.libRefCount - 1 }.move i .closed
        (if s.libRefCount = 1 then .cleanupDue else .gone)
  | .libCleanup i => { s with cleanups := s.cleanups + 1 }.move i .cleanupDue .gone

def system : System Library Action where
  start s := s = {}
  step := step

/-- How many clients are at a place. -/
def tally (s : Library) (place : Lifetime) : Nat := s.clients.count place

/-- The library is initialised as long as a client is alive, and when all are gone every init has
its cleanup. -/
structure Sound (s : Library) : Prop where
  alive : .alive ∈ s.clients → s.cleanups < s.inits
  gone : (∀ client ∈ s.clients, client = .gone) → s.inits = s.cleanups

/-- No constructor returns while an init is due, unless a cleanup is due as well; and a cleanup
that is made while an init is due and a client is alive is not the last one due. -/
def Orderly (s : Library) : Action → Prop
  | .returns _ => s.tally .initDue = 0 ∨ 0 < s.tally .cleanupDue
  | .libCleanup _ => .alive ∈ s.clients → s.tally .initDue = 0 ∨ 1 < s.tally .cleanupDue
  | .fetchAdd | .libInit _ | .close _ | .fetchSub _ => True

/-- The count is the number of clients between their two counts, at most one of them has an init
due, and the library calls due make up for the difference between those made. -/
structure Balanced (s : Library) : Prop where
  refs : s.libRefCount = s.tally .initDue + s.tally .returning + s.tally .alive + s.tally .closed
  alone : s.tally .initDue ≤ 1
  balance : s.inits + s.tally .initDue =
    s.cleanups + s.tally .cleanupDue + if s.libRefCount = 0 then 0 else 1

section Count

variable {clients : List Lifetime} {i : Nat} {before : Lifetime}

theorem count_pos_of_getElem? (here : clients[i]? = some before) : 0 < clients.count before :=
  List.count_pos_iff.mpr (List.mem_of_getElem? here)

/-- A client that moves is counted at one place less and at one more. -/
theorem count_set_of_getElem? (here : clients[i]? = some before) (after place : Lifetime) :
    (clients.set i after).count place =
      clients.count place + (if after = place then 1 else 0) -
        if before = place then 1 else 0 := by
  have present := count_pos_of_getElem? here
  obtain ⟨within, rfl⟩ := List.getElem?_eq_some_iff.mp here
  rw [List.count_set within]
  by_cases left : clients[i] = place
  · subst left
    simp only [beq_self_eq_true, if_true, beq_iff_eq]
    omega
  · simp only [left, beq_iff_eq, if_false]
    omega

end Count

section Step

variable {s t : Library}

theorem alive_iff : .alive ∈ s.clients ↔ 0 < s.tally .alive := List.count_pos_iff.symm

theorem fetchAdd_cases (taken : s.step .fetchAdd = some t) :
    t = { s with
      libRefCount := s.libRefCount + 1
      clients := s.clients ++ [if s.libRefCount = 0 then .initDue else .returning] } :=
  (Option.some.inj taken).symm

theorem libInit_cases {i : Nat} (taken : s.step (.libInit i) = some t) :
    s.clients[i]? = some .initDue ∧
      t = { s with inits := s.inits + 1, clients := s.clients.set i .returning } := by
  simpa [step, move, eq_comm] using taken

theorem returns_cases {i : Nat} (taken : s.step (.returns i) = some t) :
    s.clients[i]? = some .returning ∧ t = { s with clients := s.clients.set i .alive } := by
  simpa [step, move, eq_comm] using taken

theorem close_cases {i : Nat} (taken : s.step (.close i) = some t) :
    s.clients[i]? = some .alive ∧ t = { s with clients := s.clients.set i .closed } := by
  simpa [step, move, eq_comm] using taken

theorem fetchSub_cases {i : Nat} (taken : s.step (.fetchSub i) = some t) :
    s.clients[i]? = some .closed ∧
      t = { s with
        libRefCount := s.libRefCount - 1
        clients := s.clients.set i (if s.libRefCount = 1 then .cleanupDue else .gone) } := by
  simpa [step, move, eq_comm] using taken

theorem libCleanup_cases {i : Nat} (taken : s.step (.libCleanup i) = some t) :
    s.clients[i]? = some .cleanupDue ∧
      t = { s with cleanups := s.cleanups + 1, clients := s.clients.set i .gone } := by
  simpa [step, move, eq_comm] using taken

theorem Balanced.of_start : Balanced {} := ⟨rfl, Nat.zero_le _, rfl⟩

/-- Every step keeps the books. -/
theorem Balanced.step (balanced : Balanced s) {a : Action} (taken : s.step a = some t) :
    Balanced t := by
  obtain ⟨refs, alone, balance⟩ := balanced
  simp only [tally] at refs alone balance
  cases a with
  | fetchAdd =>
      obtain rfl := fetchAdd_cases taken
      by_cases first : s.libRefCount = 0
      · constructor <;> simp [tally, first] at balance ⊢ <;> omega
      · constructor <;> simp [tally, first] at balance ⊢ <;> omega
  | libInit i =>
      obtain ⟨here, rfl⟩ := libInit_cases taken
      have due := count_pos_of_getElem? here
      constructor <;>
        simp only [tally, count_set_of_getElem? here, reduceCtorEq, if_true, if_false] <;> omega
  | returns i =>
      obtain ⟨here, rfl⟩ := returns_cases taken
      have due := count_pos_of_getElem? here
      constructor <;>
        simp only [tally, count_set_of_getElem? here, reduceCtorEq, if_true, if_false] <;> omega
  | close i =>
      obtain ⟨here, rfl⟩ := close_cases taken
      have due := count_pos_of_getElem? here
      constructor <;>
        simp only [tally, count_set_of_getElem? here, reduceCtorEq, if_true, if_false] <;> omega
  | fetchSub i =>
      obtain ⟨here, rfl⟩ := fetchSub_cases taken
      have due := count_pos_of_getElem? here
      have counted : s.libRefCount ≠ 0 := by omega
      rw [if_neg counted] at balance
      by_cases last : s.libRefCount = 1
      · constructor <;>
          simp only [tally, last, count_set_of_getElem? here, reduceCtorEq, if_true, if_false] <;>
          omega
      · have more : s.libRefCount - 1 ≠ 0 := by omega
        constructor <;>
          simp only [tally, if_neg last, if_neg more, count_set_of_getElem? here, reduceCtorEq,
            if_true, if_false] <;> omega
  | libCleanup i =>
      obtain ⟨here, rfl⟩ := libCleanup_cases taken
      have due := count_pos_of_getElem? here
      constructor <;>
        simp only [tally, count_set_of_getElem? here, reduceCtorEq, if_true, if_false] <;> omega

/-- The books balance once everybody is gone. -/
theorem Balanced.gone (balanced : Balanced s) (all : ∀ client ∈ s.clients, client = .gone) :
    s.inits = s.cleanups := by
  have nobody (place : Lifetime) (there : place ≠ .gone) : s.tally place = 0 :=
    List.count_eq_zero.mpr fun present => there (all place present)
  obtain ⟨refs, -, balance⟩ := balanced
  rw [nobody .initDue nofun, nobody .returning nofun, nobody .alive nofun,
    nobody .closed nofun] at refs
  rw [nobody .initDue nofun, nobody .cleanupDue nofun, if_pos refs] at balance
  exact balance

/-- With a client counted, the library is initialised unless an init is due and no cleanup. -/
theorem Balanced.initialised_iff (balanced : Balanced s)
    (counted : 0 < s.tally .returning + s.tally .alive) :
    s.cleanups < s.inits ↔ s.tally .initDue = 0 ∨ 0 < s.tally .cleanupDue := by
  obtain ⟨refs, alone, balance⟩ := balanced
  rw [if_neg (by omega)] at balance
  omega

/-- A step leaves the library initialised for the clients alive exactly if it is orderly. -/
theorem sound_step_iff (balanced : Balanced s) (sound : Sound s) {a : Action}
    (taken : s.step a = some t) : Sound t ↔ s.Orderly a := by
  have after := balanced.step taken
  have gone := after.gone
  suffices serves : (.alive ∈ t.clients → t.cleanups < t.inits) ↔ s.Orderly a from
    ⟨fun sound => serves.mp sound.alive, fun orderly => ⟨serves.mpr orderly, gone⟩⟩
  have before := sound.alive
  rw [alive_iff] at before ⊢
  cases a with
  | fetchAdd =>
      obtain rfl := fetchAdd_cases taken
      refine iff_of_true (fun lives => before ?_) trivial
      by_cases first : s.libRefCount = 0
      · simpa [tally, first] using lives
      · simpa [tally, first] using lives
  | libInit i =>
      obtain ⟨here, rfl⟩ := libInit_cases taken
      refine iff_of_true (fun lives => ?_) trivial
      have kept : 0 < s.tally .alive := by
        simpa [tally, count_set_of_getElem? here] using lives
      exact Nat.lt_succ_of_lt (before kept)
  | returns i =>
      obtain ⟨here, rfl⟩ := returns_cases taken
      have due := count_pos_of_getElem? here
      have lives : 0 < ({ s with clients := s.clients.set i .alive } : Library).tally .alive := by
        simp [tally, count_set_of_getElem? here]
      rw [Orderly, ← balanced.initialised_iff (Nat.add_pos_left due _)]
      exact ⟨fun serves => serves lives, fun initialised _ => initialised⟩
  | close i =>
      obtain ⟨here, rfl⟩ := close_cases taken
      refine iff_of_true (fun _ => before ?_) trivial
      exact count_pos_of_getElem? here
  | fetchSub i =>
      obtain ⟨here, rfl⟩ := fetchSub_cases taken
      refine iff_of_true (fun lives => before ?_) trivial
      by_cases last : s.libRefCount = 1
      · simpa [tally, last, count_set_of_getElem? here] using lives
      · simpa [tally, last, count_set_of_getElem? here] using lives
  | libCleanup i =>
      obtain ⟨here, rfl⟩ := libCleanup_cases taken
      have kept : ({ s with
          cleanups := s.cleanups + 1, clients := s.clients.set i .gone } : Library).tally .alive =
          s.tally .alive := by
        simp [tally, count_set_of_getElem? here]
      rw [kept, Orderly, alive_iff]
      refine forall_congr' fun lives => ?_
      rw [after.initialised_iff (by rw [kept]; omega)]
      simp only [tally, count_set_of_getElem? here, reduceCtorEq, if_true, if_false]
      omega

end Step

/-- **Exactly when the library outlives its clients.**  In every state of a run the library is
initialised for the clients alive, and balanced when all are gone, if and only if every step of
the run is orderly. -/
theorem sound_iff_orderly (actions : List Action) :
    system.Visits Sound {} actions ↔ system.Complies Orderly {} actions := by
  apply System.visits_iff_complies_within
  · intro s a t balanced sound taken
    exact ⟨sound_step_iff balanced sound taken, fun _ => balanced.step taken⟩
  · exact Balanced.of_start
  · exact ⟨nofun, fun _ => rfl⟩

/-- A second client is built while the first is about to initialise the library. -/
def overtaken : List Action := [.fetchAdd, .fetchAdd, .returns 1]

/-- The second client is alive, and the library was never initialised. -/
theorem second_client_uninitialised :
    system.run {} overtaken =
        some { libRefCount := 2, clients := [.initDue, .alive] } ∧
      ¬ system.Visits Sound {} overtaken := by
  have ran : system.run {} overtaken =
      some { libRefCount := 2, clients := [.initDue, .alive] } := rfl
  refine ⟨ran, fun visits => ?_⟩
  have initialised := (visits.there ran).alive (by decide)
  exact absurd initialised (by decide)

end Library

end V2xRosDriver.Mqtt
