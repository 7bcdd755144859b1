import UniqueId.Proofs.Clock.Passes

/-! Ticks handed out one after another, each by a single look. The issues of a run are such a
succession, whatever looks were spent waiting, and a succession is a run on its own deciding
readings. Within the calendar the ticks of a succession increase. -/
namespace UniqueId.Clock

namespace State

/-- Each issue is what a look at its reading hands out in the state that the one before left. -/
def Yields (s : State) : List Issue → Prop
  | [] => True
  | i :: is => s.issue? i.reading = some i ∧ i.state.Yields is

/-- The state that the issues leave behind. -/
def after (s : State) (is : List Issue) : State := is.foldl (fun _ i => i.state) s

@[simp] theorem after_cons (s : State) (i : Issue) (is : List Issue) :
    s.after (i :: is) = i.state.after is := rfl

@[simp] theorem after_concat (s : State) (is : List Issue) (i : Issue) :
    s.after (is ++ [i]) = i.state := by
  rw [after, List.foldl_append]
  rfl

theorem yields_append {s : State} {is js : List Issue} :
    s.Yields (is ++ js) ↔ s.Yields is ∧ (s.after is).Yields js := by
  induction is generalizing s with
  | nil => simp [Yields, after]
  | cons i is ih =>
    rw [List.cons_append, Yields, Yields, after_cons, ih, and_assoc]

theorem yields_concat {s : State} {is : List Issue} {i : Issue} (h : s.Yields is)
    (hi : (s.after is).issue? i.reading = some i) : s.Yields (is ++ [i]) :=
  yields_append.2 ⟨h, hi, trivial⟩

/-- A call decides on one of the readings, after readings on which it had to wait. -/
theorem next?_eq_some {s : State} {readings rest : List UInt64} {i : Issue}
    (h : s.next? readings = some (i, rest)) :
    ∃ waited, readings = waited ++ i.reading :: rest ∧ (∀ now ∈ waited, s.issue? now = none) ∧
      s.issue? i.reading = some i := by
  induction readings with
  | nil => contradiction
  | cons now later ih =>
    rw [next?_cons] at h
    cases hnow : s.issue? now with
    | some j =>
      rw [hnow] at h
      cases h
      have hr := (issue?_cases hnow).1
      exact ⟨[], by rw [hr]; rfl, by simp, by rw [hr, hnow]⟩
    | none =>
      rw [hnow] at h
      obtain ⟨waited, hw, hall, hi⟩ := ih h
      refine ⟨now :: waited, by rw [hw]; rfl, ?_, hi⟩
      intro x hx
      rcases List.mem_cons.1 hx with rfl | hx
      · exact hnow
      · exact hall x hx

/-- The issues of a run are a succession, and the run ends where they end. -/
theorem yields_run (s : State) (n : Nat) (readings : List UInt64) :
    s.Yields (s.run n readings).1.issues ∧
      (s.run n readings).1.state = s.after (s.run n readings).1.issues := by
  induction n generalizing s readings with
  | zero => exact ⟨trivial, rfl⟩
  | succ n ih =>
    rw [run]
    cases h : s.next? readings with
    | none => exact ⟨trivial, rfl⟩
    | some r =>
      obtain ⟨i, rest⟩ := r
      obtain ⟨-, -, -, hi⟩ := next?_eq_some h
      obtain ⟨hy, hs⟩ := ih i.state rest
      exact ⟨⟨hi, hy⟩, hs⟩

/-- Every tick of a run was decided by one of the readings. -/
theorem reading_mem_of_mem_run {s : State} {n : Nat} {readings : List UInt64} {i : Issue}
    (h : i ∈ (s.run n readings).1.issues) : i.reading ∈ readings := by
  induction n generalizing s readings with
  | zero => contradiction
  | succ n ih =>
    rw [run] at h
    cases hn : s.next? readings with
    | none =>
      rw [hn] at h
      contradiction
    | some r =>
      obtain ⟨j, rest⟩ := r
      obtain ⟨waited, rfl, -, -⟩ := next?_eq_some hn
      rw [hn] at h
      rcases List.mem_cons.1 h with rfl | h
      · simp
      · exact List.mem_append_right _ (List.mem_cons_of_mem _ (ih h))

/-- A run whose readings suffice hands out as many ticks as there are calls. -/
theorem length_issues_of_complete {s : State} {n : Nat} {readings : List UInt64}
    (complete : (s.run n readings).1.exhausted = false) :
    (s.run n readings).1.issues.length = n := by
  induction n generalizing s readings with
  | zero => rfl
  | succ n ih =>
    rw [run] at complete ⊢
    cases h : s.next? readings with
    | none =>
      rw [h] at complete
      contradiction
    | some r =>
      rw [h] at complete
      exact congrArg (· + 1) (ih complete)

theorem length_ticks_of_complete {s : State} {n : Nat} {readings : List UInt64}
    (complete : (s.run n readings).1.exhausted = false) :
    (s.run n readings).1.ticks.length = n := by
  rw [Run.ticks, List.length_map, length_issues_of_complete complete]

/-- On its own deciding readings a succession is a complete run, whatever readings follow. -/
theorem run_append_of_yields {s : State} {is : List Issue} (h : s.Yields is)
    (rest : List UInt64) :
    s.run is.length (is.map Issue.reading ++ rest) = (⟨is, s.after is, false⟩, rest) := by
  induction is generalizing s with
  | nil => rfl
  | cons i is ih =>
    obtain ⟨hi, his⟩ := h
    rw [List.length_cons, List.map_cons, List.cons_append, run, next?_cons, hi]
    simp only [Option.map_some, Option.some_or]
    rw [ih his]
    rfl

theorem run_of_yields {s : State} {is : List Issue} (h : s.Yields is) :
    s.run is.length (is.map Issue.reading) = (⟨is, s.after is, false⟩, []) := by
  rw [← run_append_of_yields h, List.append_nil]

end State

/-- Neither the reading nor the millisecond handed out is past `last`. -/
def Issue.Within (last : Nat) (i : Issue) : Prop :=
  i.reading.toNat ≤ last ∧ i.state.millis.toNat ≤ last

namespace State

theorem word_lt_of_yields {s : State} {is : List Issue} (h : s.Yields is)
    (hs : s.millis.toNat ≤ Gregorian.lastMillis)
    (hw : ∀ i ∈ is, i.Within Gregorian.lastMillis) : ∀ i ∈ is, s.word < i.state.word := by
  induction is generalizing s with
  | nil => simp
  | cons i is ih =>
    obtain ⟨hi, his⟩ := h
    obtain ⟨hr, hm⟩ := hw i List.mem_cons_self
    rw [Gregorian.lastMillis] at hr hs
    have hlt := word_lt_of_issue? hi (by omega) (by omega)
    intro j hj
    rcases List.mem_cons.1 hj with rfl | hj
    · exact hlt
    · exact UInt64.lt_trans hlt (ih his hm (fun k hk => hw k (List.mem_cons_of_mem _ hk)) j hj)

/-- Ticks handed out one after another increase, whatever the wall clock shows and whatever state
the first call found. -/
theorem tick_lt_of_yields {s : State} {is : List Issue} (h : s.Yields is)
    (hw : ∀ i ∈ is, i.Within Gregorian.lastMillis) : (is.map Issue.tick).Pairwise (· < ·) := by
  induction is generalizing s with
  | nil => exact .nil
  | cons i is ih =>
    obtain ⟨-, his⟩ := h
    have hw' : ∀ j ∈ is, j.Within Gregorian.lastMillis :=
      fun j hj => hw j (List.mem_cons_of_mem _ hj)
    have hm := (hw i List.mem_cons_self).2
    refine List.pairwise_cons.2 ⟨?_, ih his hw'⟩
    intro t ht
    obtain ⟨j, hj, rfl⟩ := List.mem_map.1 ht
    exact (tick_lt_tick_iff hm (hw' j hj).2).2 (word_lt_of_yields his hm hw' j hj)

end State
end UniqueId.Clock
