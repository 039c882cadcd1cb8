/-
# Theory.Progress -- what comes after so many steps, whoever else moves

Some of the steps of a concurrent component are its own, the others come from outside and
may fall anywhere between them.  `Within n` says of a state that its own steps bring it to a
goal: every run that keeps away from the goal has fewer than `n` of them, and in such a run
one is always enabled.  Nothing is asked of the steps from outside, nor of a scheduler beyond
that it lets an enabled party move.

The rule is a measure of the work that is left (`Measure`): own steps bring it down, others
do not bring it up, and as long as the goal has not come some own step is enabled.
-/
import V2xRosDriver.Theory.Transition

namespace V2xRosDriver.Theory.Progress

set_option autoImplicit false

open V2xRosDriver.Theory.Transition

universe u v

variable {σ : Type u} {α : Type v} (sys : System σ α) (own : σ → α → Prop) (goal : σ → Prop)

/-- How many steps of a replay are the component's own. -/
def ownSteps [∀ s a, Decidable (own s a)] : σ → List α → Nat
  | _, [] => 0
  | s, a :: rest =>
      match sys.step s a with
      | some t => (if own s a then 1 else 0) + ownSteps t rest
      | none => 0

/-- The goal comes with the `n`-th own step at the latest, and until then one is enabled. -/
structure Within [∀ s a, Decidable (own s a)] (n : Nat) (s : σ) : Prop where
  bounded : ∀ actions t, sys.run s actions = some t → sys.Visits (¬ goal ·) s actions →
    ownSteps sys own s actions < n
  enabled : ∀ actions t, sys.run s actions = some t → sys.Visits (¬ goal ·) s actions →
    ∃ a next, own t a ∧ sys.step t a = some next

/-- The work left in the states of a region, until the goal has come. -/
structure Measure (region : σ → Prop) (work : σ → Nat) : Prop where
  stays : ∀ s a t, region s → ¬ goal s → sys.step s a = some t → region t
  falls : ∀ s a t, region s → ¬ goal s → own s a → sys.step s a = some t → work t < work s
  keeps : ∀ s a t, region s → ¬ goal s → sys.step s a = some t → work t ≤ work s
  moves : ∀ s, region s → ¬ goal s → ∃ a next, own s a ∧ sys.step s a = some next

variable {sys own goal}

section Measure

variable {region : σ → Prop} {work : σ → Nat} {s t : σ} {actions : List α}

theorem Measure.region_of_run (measure : Measure sys own goal region work) (here : region s)
    (ran : sys.run s actions = some t) (away : sys.Visits (¬ goal ·) s actions) :
    region t ∧ ¬ goal t := by
  induction actions generalizing s with
  | nil =>
      simp only [System.run, System.runUnder, Option.some.injEq] at ran
      exact ran ▸ ⟨here, away⟩
  | cons a rest ih =>
      obtain ⟨u, taken, later⟩ := System.run_cons ran
      exact ih (measure.stays s a u here away.1 taken) later (away.2 u taken)

/-- Away from the goal there is work left. -/
theorem Measure.work_pos (measure : Measure sys own goal region work) (here : region s)
    (short : ¬ goal s) : 0 < work s := by
  obtain ⟨a, t, mine, taken⟩ := measure.moves s here short
  exact Nat.zero_lt_of_lt (measure.falls s a t here short mine taken)

variable [∀ s a, Decidable (own s a)]

theorem Measure.ownSteps_add_le (measure : Measure sys own goal region work) (here : region s)
    (ran : sys.run s actions = some t) (away : sys.Visits (¬ goal ·) s actions) :
    ownSteps sys own s actions + work t ≤ work s := by
  induction actions generalizing s with
  | nil =>
      simp only [System.run, System.runUnder, Option.some.injEq] at ran
      exact Nat.le_of_eq (by rw [ran, ownSteps, Nat.zero_add])
  | cons a rest ih =>
      obtain ⟨u, taken, later⟩ := System.run_cons ran
      have next := ih (measure.stays s a u here away.1 taken) later (away.2 u taken)
      simp only [ownSteps, taken]
      split
      · rename_i mine
        have less := measure.falls s a u here away.1 mine taken
        omega
      · have most := measure.keeps s a u here away.1 taken
        omega

/-- A measure bounds the own steps to come. -/
theorem Measure.within (measure : Measure sys own goal region work) (here : region s) :
    Within sys own goal (work s) s where
  bounded _ t ran away := by
    obtain ⟨there, short⟩ := measure.region_of_run here ran away
    have left := measure.work_pos there short
    have most := measure.ownSteps_add_le here ran away
    omega
  enabled _ t ran away := by
    obtain ⟨there, short⟩ := measure.region_of_run here ran away
    exact measure.moves t there short

end Measure

theorem Within.mono [∀ s a, Decidable (own s a)] {n m : Nat} {s : σ} (most : n ≤ m)
    (within : Within sys own goal n s) : Within sys own goal m s where
  bounded actions t ran away := Nat.lt_of_lt_of_le (within.bounded actions t ran away) most
  enabled := within.enabled

end V2xRosDriver.Theory.Progress
