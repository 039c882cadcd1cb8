/-
# Theory.Channel -- a queue, what was put into it and what was taken out

Both ends of a queue are logged, every entry with the epoch it was made in.  An epoch ends
when the queue is thrown away with all that is in it.  `Ledger.Exact` says that nothing is
taken twice, out of order or in another epoch than its own: in the present epoch what was
taken, followed by what is queued, is what was put, and of an earlier epoch a first part of
what was put was taken.

One list may hold several queues, one for each kind of element.  `pick?` takes the first
element of a kind out of it: a step of the queue of that kind, and none of any other.
-/
import Mathlib.Data.List.Basic
import Mathlib.Tactic.Common

namespace V2xRosDriver.Theory.Channel

set_option autoImplicit false

universe u v w

section Ledger

variable {β : Type u}

/-- What was put into a queue and what was taken out of it, each with its epoch. -/
structure Ledger (β : Type u) where
  put : List (Nat × β) := []
  taken : List (Nat × β) := []
  deriving DecidableEq

/-- The entries of one epoch. -/
def during (epoch : Nat) (log : List (Nat × β)) : List β :=
  (log.filter (·.1 = epoch)).map (·.2)

@[simp] theorem during_append (epoch : Nat) (log more : List (Nat × β)) :
    during epoch (log ++ more) = during epoch log ++ during epoch more := by
  simp [during]

@[simp] theorem during_stamp (epoch : Nat) (xs : List β) :
    during epoch (xs.map (epoch, ·)) = xs := by
  simp [during, List.filter_map, Function.comp_def]

theorem during_stamp_of_ne {epoch other : Nat} (ne : other ≠ epoch) (xs : List β) :
    during epoch (xs.map (other, ·)) = [] := by
  simp [during, List.filter_map, Function.comp_def, ne]

theorem during_eq_nil_of_lt {epoch : Nat} {log : List (Nat × β)}
    (earlier : ∀ entry ∈ log, entry.1 < epoch) : during epoch log = [] := by
  rw [during, List.filter_eq_nil_iff.mpr, List.map_nil]
  intro entry logged
  exact decide_eq_false (Nat.ne_of_lt (earlier entry logged)) ▸ Bool.false_ne_true

namespace Ledger

def logPut (l : Ledger β) (epoch : Nat) (xs : List β) : Ledger β :=
  { l with put := l.put ++ xs.map (epoch, ·) }

def logTaken (l : Ledger β) (epoch : Nat) (x : β) : Ledger β :=
  { l with taken := l.taken ++ [(epoch, x)] }

/-- The log of a queue that loses nothing within an epoch. -/
structure Exact (l : Ledger β) (epoch : Nat) (queue : List β) : Prop where
  present : during epoch l.put = during epoch l.taken ++ queue
  past : ∀ earlier, during earlier l.taken <+: during earlier l.put
  bounded : ∀ entry ∈ l.put ++ l.taken, entry.1 ≤ epoch

variable {l : Ledger β} {epoch : Nat} {queue : List β}

theorem exact_start (epoch : Nat) : Exact ({} : Ledger β) epoch [] where
  present := rfl
  past _ := List.prefix_rfl
  bounded entry logged := by cases logged

theorem Exact.logPut (exact : l.Exact epoch queue) (xs : List β) :
    (l.logPut epoch xs).Exact epoch (queue ++ xs) where
  present := by
    simp only [Ledger.logPut, during_append, during_stamp, exact.present, List.append_assoc]
  past earlier := by
    simp only [Ledger.logPut, during_append]
    exact (exact.past earlier).trans (List.prefix_append _ _)
  bounded entry logged := by
    simp only [Ledger.logPut, List.mem_append, List.mem_map] at logged
    rcases logged with (before | ⟨x, -, rfl⟩) | taken
    · exact exact.bounded entry (List.mem_append_left _ before)
    · exact Nat.le_refl epoch
    · exact exact.bounded entry (List.mem_append_right _ taken)

theorem Exact.logTaken {x : β} (exact : l.Exact epoch (x :: queue)) :
    (l.logTaken epoch x).Exact epoch queue where
  present := by
    have here : during epoch [(epoch, x)] = [x] := during_stamp epoch [x]
    simp only [Ledger.logTaken, during_append, here, exact.present, List.append_assoc,
      List.singleton_append]
  past earlier := by
    simp only [Ledger.logTaken, during_append]
    by_cases same : epoch = earlier
    · subst same
      have here : during epoch [(epoch, x)] = [x] := during_stamp epoch [x]
      rw [here, exact.present]
      exact ⟨queue, by simp⟩
    · have elsewhere : during earlier [(epoch, x)] = [] := during_stamp_of_ne same [x]
      rw [elsewhere, List.append_nil]
      exact exact.past earlier
  bounded entry logged := by
    simp only [Ledger.logTaken, List.mem_append, List.mem_singleton] at logged
    rcases logged with put | before | rfl
    · exact exact.bounded entry (List.mem_append_left _ put)
    · exact exact.bounded entry (List.mem_append_right _ before)
    · exact Nat.le_refl epoch

/-- A new epoch begins with an empty queue. -/
theorem Exact.renew (exact : l.Exact epoch queue) {later : Nat} (newer : epoch < later) :
    l.Exact later [] where
  present := by
    have none (log : List (Nat × β)) (part : ∀ entry ∈ log, entry ∈ l.put ++ l.taken) :
        during later log = [] :=
      during_eq_nil_of_lt fun entry logged =>
        Nat.lt_of_le_of_lt (exact.bounded entry (part entry logged)) newer
    rw [none l.put fun _ => List.mem_append_left _, none l.taken fun _ => List.mem_append_right _,
      List.append_nil]
  past := exact.past
  bounded entry logged := Nat.le_of_lt (Nat.lt_of_le_of_lt (exact.bounded entry logged) newer)

end Ledger

end Ledger

/-! ## Queues in one list -/

section Pick

variable {α : Type u} {β : Type v} {γ : Type w}

/-- The first element of a kind, and the list without it. -/
def pick? (kind : α → Option β) : List α → Option (β × List α)
  | [] => none
  | x :: rest =>
      match kind x with
      | some y => some (y, rest)
      | none => (pick? kind rest).map fun found => (found.1, x :: found.2)

variable {kind : α → Option β} {xs rest : List α} {y : β}

/-- The picked element is the front of its queue. -/
theorem filterMap_of_pick? (picked : pick? kind xs = some (y, rest)) :
    xs.filterMap kind = y :: rest.filterMap kind := by
  induction xs generalizing rest with
  | nil => cases picked
  | cons x xs ih =>
      simp only [pick?] at picked
      cases here : kind x with
      | some z =>
          rw [here] at picked
          cases picked
          rw [List.filterMap_cons_some here]
      | none =>
          rw [here] at picked
          obtain ⟨⟨found, left⟩, later, same⟩ := Option.map_eq_some_iff.mp picked
          cases same
          rw [List.filterMap_cons_none here, List.filterMap_cons_none here]
          exact ih later

/-- The other queues stay as they are. -/
theorem filterMap_of_pick?_other {other : α → Option γ}
    (apart : ∀ x z, kind x = some z → other x = none)
    (picked : pick? kind xs = some (y, rest)) : rest.filterMap other = xs.filterMap other := by
  induction xs generalizing rest with
  | nil => cases picked
  | cons x xs ih =>
      simp only [pick?] at picked
      cases here : kind x with
      | some z =>
          rw [here] at picked
          cases picked
          rw [List.filterMap_cons_none (apart x y here)]
      | none =>
          rw [here] at picked
          obtain ⟨⟨found, left⟩, later, same⟩ := Option.map_eq_some_iff.mp picked
          cases same
          rw [List.filterMap_cons, List.filterMap_cons, ih later]

end Pick

end V2xRosDriver.Theory.Channel
