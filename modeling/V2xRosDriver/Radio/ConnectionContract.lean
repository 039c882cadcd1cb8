/-
# Radio.ConnectionContract -- what a client's signals say about its connection

A client raises `onConnect` when it is connected and `onDisconnect` when it is
disconnected.  Listeners can trust it when the two alternate, `onConnect` first, and
`connected ()` is true exactly after an `onConnect`.  A change of the flag and a signal
keep that only together: `onConnect` needs a client that was not connected,
`onDisconnect` one that was, and a flag that changes alone breaks it.
-/
import V2xRosDriver.Radio.BaseRadioClient

namespace V2xRosDriver.Radio

set_option autoImplicit false

/-- The two signals take turns, and `onConnect` comes first. -/
def Alternates (signals : List ConnectionSignal) : Prop :=
  signals.IsChain (· ≠ ·) ∧ signals.head? ≠ some .onDisconnect

/-- What a listener can rely on between two operations of a client. -/
structure Faithful (connected : Bool) (signals : List ConnectionSignal) : Prop where
  alternates : Alternates signals
  told : connected = true ↔ signals.getLast? = some .onConnect

instance (connected : Bool) (signals : List ConnectionSignal) :
    Decidable (Faithful connected signals) :=
  decidable_of_iff
    ((signals.IsChain (· ≠ ·) ∧ signals.head? ≠ some .onDisconnect) ∧
      (connected = true ↔ signals.getLast? = some .onConnect))
    ⟨fun both => ⟨both.1, both.2⟩, fun faithful => ⟨faithful.1, faithful.2⟩⟩

/-- A new client, not connected, has raised nothing. -/
theorem faithful_nil : Faithful false [] := by decide

section Changes

variable {connected : Bool} {signals : List ConnectionSignal}

/-- One more signal takes its turn. -/
theorem alternates_append_iff (alternates : Alternates signals) (raised : ConnectionSignal) :
    Alternates (signals ++ [raised]) ↔
      signals.getLast? ≠ some raised ∧ (signals = [] → raised ≠ .onDisconnect) := by
  obtain ⟨chain, first⟩ := alternates
  rw [Alternates, List.isChain_append]
  cases signals with
  | nil => simp
  | cons signal rest =>
      have last : (signal :: rest).getLast? ≠ some raised ↔
          ∀ x ∈ (signal :: rest).getLast?, x ≠ raised := by
        constructor
        · rintro other x member rfl
          exact other member
        · intro other same
          exact other raised same rfl
      rw [last]
      simp only [List.head?_cons] at first
      simp [chain, first]

theorem Faithful.not_connected_iff (faithful : Faithful connected signals) :
    connected = false ↔ signals = [] ∨ signals.getLast? = some .onDisconnect := by
  have told := faithful.told
  cases last : signals.getLast? with
  | none => simp_all
  | some raised =>
      have filled : signals ≠ [] := by
        rintro rfl
        cases last
      cases raised <;> cases connected <;> simp_all

/-- `onConnect`, raised by a client that has become connected. -/
theorem Faithful.onConnect_iff (faithful : Faithful connected signals) :
    Faithful true (signals ++ [.onConnect]) ↔ connected = false := by
  constructor
  · intro raised
    have turn := ((alternates_append_iff faithful.alternates _).mp raised.alternates).1
    rw [Bool.eq_false_iff]
    exact fun online => turn (faithful.told.mp online)
  · intro offline
    refine ⟨(alternates_append_iff faithful.alternates _).mpr ⟨?_, by simp⟩, by simp⟩
    intro last
    rw [faithful.told.mpr last] at offline
    cases offline

/-- `onDisconnect`, raised by a client that is connected no longer. -/
theorem Faithful.onDisconnect_iff (faithful : Faithful connected signals) :
    Faithful false (signals ++ [.onDisconnect]) ↔ connected = true := by
  constructor
  · intro raised
    obtain ⟨turn, first⟩ := (alternates_append_iff faithful.alternates _).mp raised.alternates
    by_contra offline
    rcases faithful.not_connected_iff.mp (Bool.eq_false_iff.mpr offline) with empty | last
    · exact first empty rfl
    · exact turn last
  · intro online
    have last := faithful.told.mp online
    refine ⟨(alternates_append_iff faithful.alternates _).mpr ⟨?_, ?_⟩, by simp⟩
    · rw [last]
      simp
    · rintro rfl
      cases last

/-- The flag alone: the signals told it already. -/
theorem Faithful.flag_iff (faithful : Faithful connected signals) (other : Bool) :
    Faithful other signals ↔ other = connected := by
  constructor
  · intro changed
    rw [Bool.eq_iff_iff, changed.told, faithful.told]
  · rintro rfl
    exact faithful

end Changes

end V2xRosDriver.Radio
