/-
# Theory.Transition -- guarded step functions and what holds along their runs

A concurrent component is a `System`: a predicate on initial states and a partial
step function, `step s a = some t` when the actor behind action `a` may move and
takes `s` to `t`, `none` when it may not.  Every interleaving of the actors is a
list of actions, and every moment of every interleaving is a reachable state.

Reachability is stated under a condition on steps, `ReachableUnder ok`: the states
of the runs all of whose steps meet `ok` in the state they are taken in.  Plain
`Reachable` is the condition that always holds.  The one induction of this module
is `ReachableUnder.invariant`; the executable `runUnder` replays a concrete run and
`reachableUnder_getD` turns the replay into a reachable state.

A call that other actors can interrupt is a step function of its own, from one
program point to the next (`Progress`); `runCall` is the call left alone.
-/
import Mathlib.Tactic.Common

namespace V2xRosDriver.Theory.Transition

set_option autoImplicit false

universe u v

/-- Initial states and a guarded step function. -/
structure System (σ : Type u) (α : Type v) where
  start : σ → Prop
  step : σ → α → Option σ

namespace System

variable {σ : Type u} {α : Type v} (sys : System σ α) (ok : σ → α → Prop)

/-- The states of the runs whose steps all meet `ok` in the state they leave. -/
inductive ReachableUnder : σ → Prop
  | start {s : σ} (initial : sys.start s) : ReachableUnder s
  | step {s t : σ} {a : α} (reached : ReachableUnder s) (allowed : ok s a)
      (taken : sys.step s a = some t) : ReachableUnder t

/-- The states of every run. -/
abbrev Reachable : σ → Prop := sys.ReachableUnder fun _ _ => True

variable {sys} {ok}

/-- What holds initially and survives every permitted step holds of every state reached. -/
theorem ReachableUnder.invariant {inv : σ → Prop} (initial : ∀ s, sys.start s → inv s)
    (preserved : ∀ s a t, inv s → ok s a → sys.step s a = some t → inv t)
    {s : σ} (reached : sys.ReachableUnder ok s) : inv s := by
  induction reached with
  | start first => exact initial _ first
  | step _ allowed taken ih => exact preserved _ _ _ ih allowed taken

/-- A run under a condition is one under any weaker condition. -/
theorem ReachableUnder.mono {weak : σ → α → Prop} (weaker : ∀ s a, ok s a → weak s a) {s : σ}
    (reached : sys.ReachableUnder ok s) : sys.ReachableUnder weak s := by
  induction reached with
  | start first => exact .start first
  | step _ allowed taken ih => exact .step ih (weaker _ _ allowed) taken

variable (sys) (ok)

/-- Replay a list of actions, refusing a step that is not enabled or not permitted. -/
def runUnder [∀ s a, Decidable (ok s a)] : σ → List α → Option σ
  | s, [] => some s
  | s, a :: rest =>
      if ok s a then
        match sys.step s a with
        | some t => runUnder t rest
        | none => none
      else none

/-- Replay a list of actions. -/
def run : σ → List α → Option σ := sys.runUnder fun _ _ => True

variable {sys} {ok}

theorem runUnder_cons [∀ s a, Decidable (ok s a)] {s t : σ} {a : α} {rest : List α}
    (replayed : sys.runUnder ok s (a :: rest) = some t) :
    ok s a ∧ ∃ u, sys.step s a = some u ∧ sys.runUnder ok u rest = some t := by
  simp only [runUnder] at replayed
  split at replayed
  · rename_i allowed
    split at replayed
    · rename_i u taken
      exact ⟨allowed, u, taken, replayed⟩
    · cases replayed
  · cases replayed

/-- A replay that succeeds stays among the reachable states. -/
theorem reachableUnder_of_runUnder [∀ s a, Decidable (ok s a)] {s : σ}
    (reached : sys.ReachableUnder ok s) {actions : List α} {t : σ}
    (replayed : sys.runUnder ok s actions = some t) : sys.ReachableUnder ok t := by
  induction actions generalizing s with
  | nil =>
      simp only [runUnder, Option.some.injEq] at replayed
      exact replayed ▸ reached
  | cons a rest ih =>
      obtain ⟨allowed, u, taken, later⟩ := runUnder_cons replayed
      exact ih (.step reached allowed taken) later

/-- Where a replay that succeeds ends; the state to fall back on is never used. -/
theorem reachableUnder_getD [∀ s a, Decidable (ok s a)] {s : σ}
    (reached : sys.ReachableUnder ok s) {actions : List α}
    (succeeds : (sys.runUnder ok s actions).isSome = true) (fallback : σ) :
    sys.ReachableUnder ok ((sys.runUnder ok s actions).getD fallback) := by
  obtain ⟨t, replayed⟩ := Option.isSome_iff_exists.mp succeeds
  rw [replayed]
  exact reachableUnder_of_runUnder reached replayed

theorem reachable_getD {s : σ} (reached : sys.Reachable s) {actions : List α}
    (succeeds : (sys.run s actions).isSome = true) (fallback : σ) :
    sys.Reachable ((sys.run s actions).getD fallback) :=
  reachableUnder_getD reached succeeds fallback

/-! ### Along one run -/

variable (sys) in
/-- `inv` holds in `s` and in every state a replay of the actions comes to. -/
def Visits (inv : σ → Prop) : σ → List α → Prop
  | s, [] => inv s
  | s, a :: rest => inv s ∧ ∀ t, sys.step s a = some t → Visits inv t rest

variable (sys) in
/-- Every step a replay of the actions takes meets `ok` in the state it leaves. -/
def Complies (ok : σ → α → Prop) : σ → List α → Prop
  | _, [] => True
  | s, a :: rest => ∀ t, sys.step s a = some t → ok s a ∧ Complies ok t rest

theorem Visits.here {inv : σ → Prop} {s : σ} {actions : List α}
    (visits : sys.Visits inv s actions) : inv s := by
  cases actions with
  | nil => exact visits
  | cons a rest => exact visits.1

/-- Where `ok` is exactly what a step needs to keep `inv`, a run stays in `inv` exactly when
all its steps meet `ok`. -/
theorem visits_iff_complies {inv : σ → Prop}
    (exact : ∀ s a t, inv s → sys.step s a = some t → (inv t ↔ ok s a)) {s : σ}
    (holds : inv s) (actions : List α) :
    sys.Visits inv s actions ↔ sys.Complies ok s actions := by
  induction actions generalizing s with
  | nil => exact iff_of_true holds trivial
  | cons a rest ih =>
      constructor
      · rintro ⟨-, later⟩ t taken
        have kept : inv t := (later t taken).here
        exact ⟨(exact s a t holds taken).mp kept, (ih kept).mp (later t taken)⟩
      · intro complies
        refine ⟨holds, fun t taken => ?_⟩
        obtain ⟨allowed, later⟩ := complies t taken
        exact (ih ((exact s a t holds taken).mpr allowed)).mpr later

/-- The same for a property that needs a companion: `inv` is kept for as long as `prop` is. -/
theorem visits_iff_complies_within {inv prop : σ → Prop}
    (exact : ∀ s a t, inv s → prop s → sys.step s a = some t →
      (prop t ↔ ok s a) ∧ (prop t → inv t)) {s : σ}
    (companion : inv s) (holds : prop s) (actions : List α) :
    sys.Visits prop s actions ↔ sys.Complies ok s actions := by
  induction actions generalizing s with
  | nil => exact iff_of_true holds trivial
  | cons a rest ih =>
      constructor
      · rintro ⟨-, later⟩ t taken
        obtain ⟨needs, kept⟩ := exact s a t companion holds taken
        have here : prop t := (later t taken).here
        exact ⟨needs.mp here, (ih (kept here) here).mp (later t taken)⟩
      · intro complies
        refine ⟨holds, fun t taken => ?_⟩
        obtain ⟨allowed, later⟩ := complies t taken
        obtain ⟨needs, kept⟩ := exact s a t companion holds taken
        have here : prop t := needs.mpr allowed
        exact (ih (kept here) here).mpr later

/-- The first step of a replay, and the replay of the rest. -/
theorem run_cons {s t : σ} {a : α} {rest : List α} (ran : sys.run s (a :: rest) = some t) :
    ∃ u, sys.step s a = some u ∧ sys.run u rest = some t :=
  (runUnder_cons ran).2

/-- A run that stays in `inv` ends in it. -/
theorem Visits.there {inv : σ → Prop} {s t : σ} {actions : List α}
    (visits : sys.Visits inv s actions) (ran : sys.run s actions = some t) : inv t := by
  induction actions generalizing s with
  | nil =>
      simp only [run, runUnder, Option.some.injEq] at ran
      exact ran ▸ visits
  | cons a rest ih =>
      obtain ⟨u, taken, later⟩ := run_cons ran
      exact ih (visits.2 u taken) later

/-- What every complying step preserves holds at the end of a complying replay. -/
theorem Complies.invariant {inv : σ → Prop}
    (preserved : ∀ s a t, inv s → ok s a → sys.step s a = some t → inv t) {s t : σ}
    {actions : List α} (holds : inv s) (complies : sys.Complies ok s actions)
    (ran : sys.run s actions = some t) : inv t := by
  induction actions generalizing s with
  | nil =>
      simp only [run, runUnder, Option.some.injEq] at ran
      exact ran ▸ holds
  | cons a rest ih =>
      obtain ⟨u, taken, later⟩ := run_cons ran
      obtain ⟨allowed, onward⟩ := complies u taken
      exact ih (preserved s a u holds allowed taken) onward later

end System

/-! ## Calls in small steps -/

/-- Where a call stands after one of its steps. -/
inductive Progress (π : Type u) (ρ : Type v) where
  | goes (pc : π)
  | returned (result : ρ)
  deriving DecidableEq

/-- The step to come, if the call has not returned. -/
def Progress.pc? {π : Type u} {ρ : Type v} : Progress π ρ → Option π
  | .goes pc => some pc
  | .returned _ => none

/-- Run a call alone, with the answers its environment gives, one for each step. -/
def runCall {σ π ρ ι : Type*} (step : σ → π → ι → σ × Progress π ρ) :
    σ → π → List ι → Option (σ × ρ)
  | _, _, [] => none
  | s, pc, answer :: answers =>
      match step s pc answer with
      | (t, .goes next) => runCall step t next answers
      | (t, .returned result) => some (t, result)

/-- What holds at the first step of a call and survives every other gives, in the step it
returns with, what the call leaves behind. -/
theorem runCall_leaves {σ π ρ ι : Type*} {step : σ → π → ι → σ × Progress π ρ}
    {P : σ → π → Prop} {Q : σ → ρ → Prop}
    (onward : ∀ s pc answer t next, P s pc → step s pc answer = (t, .goes next) → P t next)
    (returns : ∀ s pc answer t result, P s pc →
      step s pc answer = (t, .returned result) → Q t result)
    {s t : σ} {pc : π} {answers : List ι} {result : ρ} (holds : P s pc)
    (ended : runCall step s pc answers = some (t, result)) : Q t result := by
  induction answers generalizing s pc with
  | nil => cases ended
  | cons answer rest ih =>
      simp only [runCall] at ended
      cases stepped : step s pc answer with
      | mk u progress =>
          rw [stepped] at ended
          cases progress with
          | goes next => exact ih (onward s pc answer u next holds stepped) ended
          | returned other =>
              simp only [Option.some.injEq, Prod.mk.injEq] at ended
              obtain ⟨rfl, rfl⟩ := ended
              exact returns s pc answer u other holds stepped

end V2xRosDriver.Theory.Transition
