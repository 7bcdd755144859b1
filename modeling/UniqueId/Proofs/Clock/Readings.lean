import UniqueId.Proofs.Clock.Succession

/-! Which readings the calls of a run take. Each call goes on where the one before stopped, in the
state that it left, and takes the readings on which it waits and the one that decides. -/
namespace UniqueId.Clock.State

/-- The readings that the first `n` calls look at. -/
def taken (s : State) (n : Nat) (readings : List UInt64) : List UInt64 :=
  readings.take (readings.length - (s.run n readings).2.length)

theorem taken_of_append {s : State} {n : Nat} {readings used : List UInt64}
    (h : readings = used ++ (s.run n readings).2) : s.taken n readings = used := by
  have len := congrArg List.length h
  rw [List.length_append] at len
  rw [taken, len, Nat.add_sub_cancel]
  conv => lhs; rw [h]
  exact List.take_left

@[simp] theorem taken_zero (s : State) (readings : List UInt64) : s.taken 0 readings = [] :=
  taken_of_append rfl

/-- A call that finds no reading to decide on takes them all. -/
theorem taken_of_next?_eq_none {s : State} {n : Nat} {readings : List UInt64}
    (h : s.next? readings = none) : s.taken (n + 1) readings = readings := by
  apply taken_of_append
  rw [run, h, List.append_nil]

/-- What was taken and what is left are the readings. -/
theorem taken_append_run (s : State) (n : Nat) (readings : List UInt64) :
    s.taken n readings ++ (s.run n readings).2 = readings := by
  have used : ∃ used, readings = used ++ (s.run n readings).2 := by
    induction n generalizing s readings with
    | zero => exact ⟨[], rfl⟩
    | succ n ih =>
      rw [run]
      cases h : s.next? readings with
      | none => exact ⟨readings, by simp⟩
      | some r =>
        obtain ⟨i, rest⟩ := r
        obtain ⟨waited, hw, -, -⟩ := next?_eq_some h
        obtain ⟨later, hl⟩ := ih i.state rest
        exact ⟨waited ++ i.reading :: later, by rw [hw]; simpa using hl⟩
  obtain ⟨used, h⟩ := used
  rw [taken_of_append h, ← h]

theorem taken_succ {s : State} {n : Nat} {rest waited : List UInt64} {i : Issue}
    (h : s.next? (waited ++ i.reading :: rest) = some (i, rest)) :
    s.taken (n + 1) (waited ++ i.reading :: rest) =
      waited ++ i.reading :: i.state.taken n rest := by
  apply taken_of_append
  rw [run, h, List.append_assoc, List.cons_append, taken_append_run]

/-- A call of a run is a call in the state and on the readings that the calls before it left. -/
theorem next?_of_issues {s : State} {n j : Nat} {readings : List UInt64} {i : Issue}
    (h : (s.run n readings).1.issues[j]? = some i) :
    (s.run j readings).1.state.next? (s.run j readings).2 =
      some (i, (s.run (j + 1) readings).2) := by
  induction n generalizing s j readings with
  | zero => contradiction
  | succ n ih =>
    rw [run] at h
    cases hn : s.next? readings with
    | none =>
      rw [hn] at h
      contradiction
    | some r =>
      obtain ⟨first, rest⟩ := r
      rw [hn] at h
      cases j with
      | zero =>
        cases h
        have left : (s.run 1 readings).2 = rest := by
          rw [run, hn]
          rfl
        rw [left]
        exact hn
      | succ j =>
        rw [run, hn, run, hn]
        exact ih h

theorem taken_succ_of_issues {s : State} {n j : Nat} {readings : List UInt64} {i : Issue}
    (h : (s.run n readings).1.issues[j]? = some i) :
    ∃ waited, s.taken (j + 1) readings = s.taken j readings ++ (waited ++ [i.reading]) := by
  obtain ⟨waited, left, -, -⟩ := next?_eq_some (next?_of_issues h)
  refine ⟨waited, taken_of_append ?_⟩
  calc readings = s.taken j readings ++ (s.run j readings).2 := (s.taken_append_run j readings).symm
    _ = s.taken j readings ++ (waited ++ [i.reading]) ++ (s.run (j + 1) readings).2 := by
      rw [left, List.append_assoc, List.append_assoc, List.singleton_append]

end UniqueId.Clock.State
