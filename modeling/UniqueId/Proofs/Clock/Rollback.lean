import UniqueId.Proofs.Clock.Readings

/-! A clock while the wall clock is behind it. It never waits: every look hands out a tick, and the
millisecond and the counter go on together like a number of which the last three digits are the
counter. So the tick of every call is known in advance, and which calls carry. -/
namespace UniqueId.Clock

namespace State

/-- One look while the wall clock is behind. -/
theorem issue?_of_behind {s : State} {m c : Nat} {now : UInt64} (start : s.Holds m c)
    (counter_le : c ≤ 999) (behind : now.toNat < m) (fits : m + 1 < 0x40000000000000) :
    ∃ i, s.issue? now = some i ∧ i.reading = now ∧
      i.state.Holds (m + (c + 1) / 1000) ((c + 1) % 1000) ∧
      i.events = if c = 999 then [.clockCarried now s.millis] else [] := by
  obtain ⟨rfl, rfl⟩ := start
  cases hi : s.issue? now with
  | none =>
    obtain ⟨rfl, -⟩ := issue?_eq_none_iff.1 hi
    exact absurd behind (Nat.lt_irrefl _)
  | some i =>
    obtain ⟨reading, ⟨ahead, -⟩ | ⟨-, room, hp, quiet⟩ | ⟨-, full, hp, carried⟩⟩ := issue?_cases hi
    · omega
    · exact ⟨i, rfl, reading, ⟨hp.millis.trans (by omega), hp.counter.trans (by omega)⟩, by
        rw [quiet, if_neg (by omega)]⟩
    · exact ⟨i, rfl, reading, ⟨hp.millis.trans (by omega), hp.counter.trans (by omega)⟩, by
        rw [carried, if_pos (by omega)]⟩

/-- The ticks that a clock at millisecond `m` and counter `c` hands out, one for each reading, and
the carries reported with them. The first carry comes with the reading that finds the counter at
999, and the others follow a thousand readings apart. -/
structure GoesOn (s : State) (m c : Nat) (seen : List UInt64) (is : List Issue) : Prop where
  yields : s.Yields is
  readings : is.map Issue.reading = seen
  holds : ∀ (j : Nat) (i : Issue), is[j]? = some i →
    i.state.Holds (m + (c + (j + 1)) / 1000) ((c + (j + 1)) % 1000)
  events : ∀ e : Nat, (is.flatMap Issue.events)[e]? =
    seen[1000 * (e + 1) - (c + 1)]?.map fun now => .clockCarried now (.ofNat (m + e))

theorem goesOn_nil (s : State) (m c : Nat) : s.GoesOn m c [] [] :=
  ⟨trivial, rfl, fun _ _ h => absurd h (by simp), fun _ => rfl⟩

/-- One tick, and those that the state after it hands out. -/
theorem GoesOn.cons {s : State} {m c : Nat} {seen : List UInt64} {i : Issue} {is : List Issue}
    (later : i.state.GoesOn (m + (c + 1) / 1000) ((c + 1) % 1000) seen is) (start : s.Holds m c)
    (counter_le : c ≤ 999) (hi : s.issue? i.reading = some i)
    (hp : i.state.Holds (m + (c + 1) / 1000) ((c + 1) % 1000))
    (events : i.events = if c = 999 then [.clockCarried i.reading s.millis] else []) :
    s.GoesOn m c (i.reading :: seen) (i :: is) where
  yields := ⟨hi, later.yields⟩
  readings := by rw [List.map_cons, later.readings]
  holds j k hj := by
    cases j with
    | zero =>
      cases hj
      exact hp
    | succ j =>
      obtain ⟨millis, counter⟩ := later.holds j k hj
      exact ⟨millis.trans (by omega), counter.trans (by omega)⟩
  events e := by
    rw [List.flatMap_cons, events]
    by_cases full : c = 999
    -- this call carries, so the carries of the calls after it move up by one
    · rw [if_pos full, List.singleton_append]
      cases e with
      | zero =>
        rw [show 1000 * (0 + 1) - (c + 1) = 0 by omega, Nat.add_zero, ← start.millis,
          UInt64.ofNat_toNat]
        rfl
      | succ e =>
        rw [List.getElem?_cons_succ, later.events,
          show 1000 * (e + 1 + 1) - (c + 1) = 1000 * (e + 1) - ((c + 1) % 1000 + 1) + 1 by omega,
          List.getElem?_cons_succ, show m + (c + 1) / 1000 + e = m + (e + 1) by omega]
    · rw [if_neg full, List.nil_append, later.events,
        show 1000 * (e + 1) - (c + 1) = 1000 * (e + 1) - ((c + 1) % 1000 + 1) + 1 by omega,
        List.getElem?_cons_succ, show m + (c + 1) / 1000 + e = m + e by omega]

theorem exists_goesOn {s : State} {m c : Nat} {seen : List UInt64} (start : s.Holds m c)
    (counter_le : c ≤ 999) (behind : ∀ now ∈ seen, now.toNat < m)
    (fits : m + (c + seen.length) / 1000 ≤ Gregorian.lastMillis) :
    ∃ is, s.GoesOn m c seen is := by
  induction seen generalizing s m c with
  | nil => exact ⟨[], goesOn_nil s m c⟩
  | cons now seen ih =>
    have last : Gregorian.lastMillis + 1 < 0x40000000000000 := by decide
    rw [List.length_cons] at fits
    obtain ⟨i, hi, rfl, hp, events⟩ :=
      issue?_of_behind start counter_le (behind now List.mem_cons_self) (by omega)
    -- the millisecond of the next state is no earlier, so the other readings are behind it too
    have still_behind : ∀ now ∈ seen, now.toNat < m + (c + 1) / 1000 := fun now mem =>
      Nat.lt_of_lt_of_le (behind now (List.mem_cons_of_mem _ mem)) (Nat.le_add_right _ _)
    obtain ⟨is, later⟩ := ih hp (by omega) still_behind (by omega)
    exact ⟨i :: is, later.cons start counter_le hi hp events⟩

namespace GoesOn
variable {s : State} {m c : Nat} {seen : List UInt64} {is : List Issue}

theorem length_take {k : Nat} {readings : List UInt64} (h : s.GoesOn m c (readings.take k) is)
    (enough : k ≤ readings.length) : is.length = k := by
  rw [← List.length_take_of_le enough, ← h.readings, List.length_map]

theorem run_take {k : Nat} {readings : List UInt64} (h : s.GoesOn m c (readings.take k) is)
    (enough : k ≤ readings.length) :
    s.run k readings = (⟨is, s.after is, false⟩, readings.drop k) := by
  have run := run_append_of_yields h.yields (readings.drop k)
  rwa [h.readings, h.length_take enough, List.take_append_drop] at run

/-- The ticks, as words and as the numbers that they stand for. -/
theorem ticks (h : s.GoesOn m c seen is)
    (fits : m + (c + is.length) / 1000 ≤ Gregorian.lastMillis) :
    is.map Issue.tick = (List.range is.length).map (fun j =>
      Gregorian.tick (.ofNat (m + (c + (j + 1)) / 1000)) (.ofNat ((c + (j + 1)) % 1000))) ∧
    (is.map Issue.tick).map UInt64.toNat = (List.range is.length).map fun j =>
      Gregorian.unixEpoch.toNat + 10000 * (m + (c + (j + 1)) / 1000) + (c + (j + 1)) % 1000 := by
  constructor
  · refine List.ext_getElem (by simp) fun j hj _ => ?_
    rw [List.length_map] at hj
    obtain ⟨millis, counter⟩ := h.holds j is[j] (List.getElem?_eq_getElem hj)
    rw [List.getElem_map, List.getElem_map, List.getElem_range, ← millis, ← counter,
      UInt64.ofNat_toNat, UInt64.ofNat_toNat]
    rfl
  · refine List.ext_getElem (by simp) fun j hj _ => ?_
    rw [List.length_map, List.length_map] at hj
    obtain ⟨millis, counter⟩ := h.holds j is[j] (List.getElem?_eq_getElem hj)
    rw [List.getElem_map, List.getElem_map, List.getElem_map, List.getElem_range, Issue.tick,
      toNat_tick (by rw [millis]; omega), millis, counter]

theorem length_events (h : s.GoesOn m c seen is) (counter_le : c ≤ 999) :
    (is.flatMap Issue.events).length = (c + is.length) / 1000 := by
  have within (e : Nat) :
      (is.flatMap Issue.events).length ≤ e ↔ (c + is.length) / 1000 ≤ e := by
    rw [← List.getElem?_eq_none_iff, h.events, Option.map_eq_none_iff, List.getElem?_eq_none_iff,
      ← h.readings, List.length_map]
    omega
  have upper := within ((c + is.length) / 1000)
  have lower := within (is.flatMap Issue.events).length
  omega

end GoesOn
end State

/-- Calls that find the wall clock behind take one reading each. With every call the millisecond and
the counter go on by one tick, a thousand ticks to each millisecond. Every call after which the
counter is back at zero reports a carry, with its own reading and the millisecond that it left. -/
theorem ticks_of_behind {s : State} {m c k : Nat} {readings : List UInt64}
    (start : s.Holds m c) (counter_le : c ≤ 999) (enough : k ≤ readings.length)
    (behind : ∀ now ∈ readings.take k, now.toNat < m)
    (fits : m + (c + k) / 1000 ≤ Gregorian.lastMillis) :
    (∀ j ≤ k, s.taken j readings = readings.take j) ∧
    (s.run k readings).1.exhausted = false ∧
    (s.run k readings).1.ticks = (List.range k).map (fun j =>
      Gregorian.tick (.ofNat (m + (c + (j + 1)) / 1000)) (.ofNat ((c + (j + 1)) % 1000))) ∧
    (s.run k readings).1.ticks.map UInt64.toNat = (List.range k).map (fun j =>
      Gregorian.unixEpoch.toNat + 10000 * (m + (c + (j + 1)) / 1000) + (c + (j + 1)) % 1000) ∧
    (s.run k readings).1.events.length = (c + k) / 1000 ∧
    ∀ e, (s.run k readings).1.events[e]? =
      (readings.take k)[1000 * (e + 1) - (c + 1)]?.map fun now =>
        .clockCarried now (.ofNat (m + e)) := by
  have calls {j : Nat} (le : j ≤ k) :
      ∃ is, s.GoesOn m c (readings.take j) is ∧
        s.run j readings = (⟨is, s.after is, false⟩, readings.drop j) := by
    have fewer : (readings.take j).length ≤ k :=
      Nat.le_trans (List.length_take_le j readings) le
    obtain ⟨is, on⟩ := State.exists_goesOn start counter_le
      (fun now mem => behind now (List.take_subset_take_left readings le mem)) (by omega)
    exact ⟨is, on, on.run_take (Nat.le_trans le enough)⟩
  obtain ⟨is, on, run⟩ := calls (Nat.le_refl k)
  have length := on.length_take enough
  rw [run]
  refine ⟨?taken, rfl, ?ticks⟩
  case taken =>
    intro j le
    obtain ⟨_, -, some⟩ := calls le
    refine State.taken_of_append ?_
    rw [some, List.take_append_drop]
  case ticks =>
    obtain ⟨words, numbers⟩ := on.ticks (by omega)
    have carries := on.length_events counter_le
    rw [length] at words numbers carries
    exact ⟨words, numbers, carries, on.events⟩

/-- The counter is full after the first call, so the second carries, on the reading 0. -/
theorem ticks_of_behind_carry :
    (State.pack 5 998).Holds 5 998 ∧ 998 ≤ 999 ∧ 3 ≤ [4, 0, 3, 9].length ∧
    (∀ now ∈ ([4, 0, 3, 9] : List UInt64).take 3, now.toNat < 5) ∧
    5 + (998 + 3) / 1000 ≤ Gregorian.lastMillis ∧
    ((State.pack 5 998).run 3 [4, 0, 3, 9]).1.ticks =
      [Gregorian.tick 5 999, Gregorian.tick 6 0, Gregorian.tick 6 1] ∧
    ((State.pack 5 998).run 3 [4, 0, 3, 9]).1.events.length = 1 ∧
    ((State.pack 5 998).run 3 [4, 0, 3, 9]).1.events[0]? = some (.clockCarried 0 5) := by
  have start : (State.pack 5 998).Holds 5 998 := ⟨by decide, by decide⟩
  have behind : ∀ now ∈ ([4, 0, 3, 9] : List UInt64).take 3, now.toNat < 5 := by simp
  obtain ⟨-, -, ticks, -, carries, events⟩ :=
    ticks_of_behind start (by decide) (by decide) behind (by decide)
  exact ⟨start, by decide, by decide, behind, by decide, ticks, carries, events 0⟩

end UniqueId.Clock
