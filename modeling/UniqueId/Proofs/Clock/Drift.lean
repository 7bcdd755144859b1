import UniqueId.Proofs.Clock.Readings

/-! How far a clock is from the wall clock. A new clock is never behind any reading that it took,
and ahead of the newest one by at most a millisecond for every thousand ticks, however often the
wall clock goes back. What carries this is a bound on the millisecond and the counter together. -/
namespace UniqueId.Clock

/-- The newest millisecond among some readings. -/
def highest (readings : List UInt64) : Nat :=
  readings.foldr (fun now high => max now.toNat high) 0

@[simp] theorem highest_nil : highest [] = 0 := rfl

@[simp] theorem highest_cons (now : UInt64) (readings : List UInt64) :
    highest (now :: readings) = max now.toNat (highest readings) := rfl

@[simp] theorem highest_append (as bs : List UInt64) :
    highest (as ++ bs) = max (highest as) (highest bs) := by
  induction as with
  | nil => exact (Nat.zero_max _).symm
  | cons a as ih => rw [List.cons_append, highest_cons, highest_cons, ih, Nat.max_assoc]

namespace State

theorem highest_taken_mono (s : State) {j n : Nat} (h : j ≤ n) (readings : List UInt64) :
    highest (s.taken j readings) ≤ highest (s.taken n readings) := by
  induction n generalizing s j readings with
  | zero =>
    cases Nat.le_zero.1 h
    exact Nat.le_refl _
  | succ n ih =>
    cases j with
    | zero =>
      rw [taken_zero]
      exact Nat.zero_le _
    | succ j =>
      cases hn : s.next? readings with
      | none =>
        exact Nat.le_of_eq (by rw [taken_of_next?_eq_none hn, taken_of_next?_eq_none hn])
      | some r =>
        obtain ⟨i, rest⟩ := r
        obtain ⟨waited, rfl, -, -⟩ := next?_eq_some hn
        have later := ih i.state (Nat.le_of_succ_le_succ h) rest
        rw [taken_succ hn, taken_succ hn, highest_append, highest_append, highest_cons,
          highest_cons]
        omega

/-- How a clock stands to the wall clock after `issued` ticks, if `high` is the newest reading that
it took. A full counter is at 999, so that a carry into the next millisecond adds no more to
`ahead` than any other tick. -/
structure Tracks (s : State) (high issued : Nat) : Prop where
  counter_le : s.counter.toNat ≤ 999
  not_behind : high ≤ s.millis.toNat
  ahead : 1000 * s.millis.toNat + s.counter.toNat ≤ 1000 * high + issued

theorem tracks_initial : initial.Tracks 0 0 := ⟨by decide, by decide, by decide⟩

theorem Holds.tracks {s : State} {m c high issued : Nat} (h : s.Holds m c) (counter_le : c ≤ 999)
    (not_behind : high ≤ m) (ahead : 1000 * m + c ≤ 1000 * high + issued) :
    s.Tracks high issued := by
  obtain ⟨rfl, rfl⟩ := h
  exact ⟨counter_le, not_behind, ahead⟩

/-- A look that hands out nothing shows no later millisecond than the stored one. -/
theorem le_millis_of_issue?_eq_none {s : State} {now : UInt64} (h : s.issue? now = none) :
    now.toNat ≤ s.millis.toNat :=
  Nat.le_of_eq (congrArg UInt64.toNat (issue?_eq_none_iff.1 h).1)

theorem highest_le_of_waited {s : State} {waited : List UInt64}
    (hw : ∀ now ∈ waited, s.issue? now = none) : highest waited ≤ s.millis.toNat := by
  induction waited with
  | nil => exact Nat.zero_le _
  | cons now waited ih =>
    rw [highest_cons, Nat.max_le]
    exact ⟨le_millis_of_issue?_eq_none (hw now List.mem_cons_self),
      ih fun later mem => hw later (List.mem_cons_of_mem _ mem)⟩

namespace Tracks
variable {s : State} {high issued : Nat}

theorem millis_le (h : s.Tracks high issued) : s.millis.toNat ≤ high + issued / 1000 := by
  have ahead := h.ahead
  omega

/-- Waiting raises the newest reading, but not above the stored millisecond. -/
theorem wait (h : s.Tracks high issued) {waited : List UInt64}
    (hw : ∀ now ∈ waited, s.issue? now = none) : s.Tracks (max high (highest waited)) issued := by
  have below := highest_le_of_waited hw
  have ahead := h.ahead
  exact ⟨h.counter_le, Nat.max_le.2 ⟨h.not_behind, below⟩, by omega⟩

/-- A tick handed out adds one to the millisecond and the counter together, where a millisecond
counts as a thousand, or else the millisecond that was read starts. -/
theorem issue (h : s.Tracks high issued) {now : UInt64} {i : Issue} (hi : s.issue? now = some i)
    (fits : max high now.toNat + (issued + 1) / 1000 < 0x40000000000000) :
    i.state.Tracks (max high now.toNat) (issued + 1) := by
  obtain ⟨counter_le, not_behind, ahead⟩ := h
  obtain ⟨-, ⟨newer, hp, -⟩ | ⟨older, room, hp, -⟩ | ⟨older, full, hp, -⟩⟩ := issue?_cases hi
  · rw [Nat.mod_eq_of_lt (by omega)] at hp
    exact hp.tracks (by omega) (by omega) (by omega)
  · exact hp.tracks (by omega) (by omega) (by omega)
  · rw [Nat.mod_eq_of_lt (by omega)] at hp
    exact hp.tracks (by omega) (by omega) (by omega)

/-- A call takes the readings on which it waits and the one that decides. -/
theorem next (h : s.Tracks high issued) {waited : List UInt64} {i : Issue}
    (hw : ∀ now ∈ waited, s.issue? now = none) (hi : s.issue? i.reading = some i)
    (fits : max high (highest (waited ++ [i.reading])) + (issued + 1) / 1000 < 0x40000000000000) :
    i.state.Tracks (max high (highest (waited ++ [i.reading]))) (issued + 1) := by
  have single : highest [i.reading] = i.reading.toNat := Nat.max_zero _
  rw [highest_append, single, ← Nat.max_assoc] at fits ⊢
  exact (h.wait hw).issue hi fits

/-- In a run every state keeps up with the readings taken so far. -/
theorem run (h : s.Tracks high issued) {n : Nat} {readings : List UInt64}
    (fits : max high (highest (s.taken n readings)) + (issued + n) / 1000 < 0x40000000000000)
    {j : Nat} {i : Issue} (hj : (s.run n readings).1.issues[j]? = some i) :
    i.state.Tracks (max high (highest (s.taken (j + 1) readings))) (issued + (j + 1)) := by
  induction n generalizing s high issued readings j with
  | zero => contradiction
  | succ n ih =>
    rw [State.run] at hj
    cases hn : s.next? readings with
    | none =>
      rw [hn] at hj
      contradiction
    | some r =>
      obtain ⟨first, rest⟩ := r
      rw [hn] at hj
      obtain ⟨waited, rfl, hw, hi⟩ := next?_eq_some hn
      have chunk (later : List UInt64) : waited ++ first.reading :: later =
          (waited ++ [first.reading]) ++ later := by simp
      rw [taken_succ hn, chunk, highest_append, ← Nat.max_assoc] at fits
      have hfirst := h.next hw hi (by omega)
      cases j with
      | zero =>
        cases hj
        rw [taken_succ hn, taken_zero]
        exact hfirst
      | succ j =>
        rw [taken_succ hn, chunk, highest_append, ← Nat.max_assoc,
          show issued + (j + 1 + 1) = issued + 1 + (j + 1) by omega]
        exact ih hfirst (by omega) hj

end Tracks

/-- The Unix millisecond is found again in a tick. -/
theorem millis_of_tick {s : State} {high issued : Nat} (h : s.Tracks high issued)
    (fits : high + issued / 1000 ≤ Gregorian.lastMillis) :
    Gregorian.unixEpoch.toNat ≤ s.tick.toNat ∧
      (s.tick.toNat - Gregorian.unixEpoch.toNat) / 10000 = s.millis.toNat := by
  have counter_le := h.counter_le
  rw [toNat_tick (Nat.le_trans h.millis_le fits)]
  omega

end State

/-- The millisecond of every tick of a new clock is between the newest reading taken so far and as
many milliseconds after it as there are thousands of ticks so far, whatever the wall clock shows. -/
theorem drift_bounded (n : Nat) (readings : List UInt64)
    (complete : (State.initial.run n readings).1.exhausted = false)
    (fits : highest (State.initial.taken n readings) + n / 1000 ≤ Gregorian.lastMillis) :
    (State.initial.run n readings).1.ticks.length = n ∧
    ∀ j t, (State.initial.run n readings).1.ticks[j]? = some t →
      Gregorian.unixEpoch.toNat ≤ t.toNat ∧
      highest (State.initial.taken (j + 1) readings) ≤
        (t.toNat - Gregorian.unixEpoch.toNat) / 10000 ∧
      (t.toNat - Gregorian.unixEpoch.toNat) / 10000 ≤
        highest (State.initial.taken (j + 1) readings) + (j + 1) / 1000 := by
  refine ⟨State.length_ticks_of_complete complete, ?_⟩
  intro j t ht
  rw [Run.ticks, List.getElem?_map] at ht
  obtain ⟨i, hi, rfl⟩ := Option.map_eq_some_iff.1 ht
  have lt : j + 1 ≤ n :=
    State.length_issues_of_complete complete ▸ (List.getElem?_eq_some_iff.1 hi).1
  have newest := State.initial.highest_taken_mono lt readings
  have last : Gregorian.lastMillis < 0x40000000000000 := by decide
  have tracks := State.tracks_initial.run (by omega) hi
  rw [Nat.zero_max, Nat.zero_add] at tracks
  obtain ⟨started, millis⟩ := State.millis_of_tick tracks (by omega)
  rw [Issue.tick, millis]
  exact ⟨started, tracks.not_behind, tracks.millis_le⟩

/-- The wall clock goes back to 4 before the second tick, and on to 12 before the third. -/
theorem drift_bounded_rollback :
    (State.initial.run 3 [9, 4, 12]).1.exhausted = false ∧
    highest (State.initial.taken 3 [9, 4, 12]) + 3 / 1000 ≤ Gregorian.lastMillis ∧
    (State.initial.run 3 [9, 4, 12]).1.ticks.length = 3 ∧
    9 ≤ ((Gregorian.tick 9 1).toNat - Gregorian.unixEpoch.toNat) / 10000 ∧
    ((Gregorian.tick 9 1).toNat - Gregorian.unixEpoch.toNat) / 10000 ≤ 9 + 2 / 1000 := by
  obtain ⟨calls, bounds⟩ := drift_bounded 3 [9, 4, 12] (by decide) (by decide)
  exact ⟨by decide, by decide, calls, (bounds 1 (Gregorian.tick 9 1) (by decide)).2⟩

end UniqueId.Clock
