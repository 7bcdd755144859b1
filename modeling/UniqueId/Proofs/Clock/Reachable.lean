import UniqueId.Proofs.Clock.Interleaving

/-! The states that a clock can come to. Whatever the wall clock shows, and however many threads
share the clock, the counter stays below the number of ticks in a millisecond. -/
namespace UniqueId.Clock

namespace State

/-- A state that some calls of a new clock leave behind, whatever they read. -/
def Reachable (s : State) : Prop :=
  ∃ (n : Nat) (readings : List UInt64), (initial.run n readings).1.state = s

theorem reachable_after {is : List Issue} (h : initial.Yields is) :
    (initial.after is).Reachable :=
  ⟨is.length, is.map Issue.reading, by rw [run_of_yields h]⟩

theorem counter_after_le {s : State} {is : List Issue} (h : s.Yields is)
    (counter_le : s.counter.toNat ≤ 999) : (s.after is).counter.toNat ≤ 999 := by
  induction is generalizing s with
  | nil => exact counter_le
  | cons i is ih =>
    obtain ⟨hi, his⟩ := h
    exact ih his (counter_le_of_issue? hi)

theorem Reachable.counter_le {s : State} (h : s.Reachable) : s.counter.toNat ≤ 999 := by
  obtain ⟨n, readings, rfl⟩ := h
  obtain ⟨yields, ends⟩ := initial.yields_run n readings
  rw [ends]
  exact counter_after_le yields (by decide)

/-- A look hands out nothing just if it shows the stored millisecond and that one is full. -/
theorem Reachable.issue?_eq_none_iff {s : State} (h : s.Reachable) {now : UInt64} :
    s.issue? now = none ↔ now = s.millis ∧ s.counter.toNat = 999 := by
  rw [State.issue?_eq_none_iff, Nat.le_antisymm_iff, and_iff_right h.counter_le]

end State

/-- Threads that share a new clock bring it to no state that a single caller could not. -/
theorem Shared.reachable_of_run? {n : Nat} {steps : List (Nat × Step)} {c : Shared}
    (h : (start .initial n).run? steps = some c) : c.state.Reachable := by
  obtain ⟨is, yields, ends, -⟩ := (linear_run (linear_start .initial n) h).succession
  rw [ends]
  exact State.reachable_after yields

end UniqueId.Clock
