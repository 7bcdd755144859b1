import UniqueId.Proofs.Clock.Reachable

/-! A call that waits. While the stored millisecond is full, a call passes over the readings that
show it, and the first other reading decides as if it had been the only one. Waiting changes
nothing, so a call that finds no other reading might as well not have been made. -/
namespace UniqueId.Clock

namespace State

/-- The readings that a call passes over: those in front that show the stored millisecond, if that
one is full. -/
def skipped (s : State) (readings : List UInt64) : List UInt64 :=
  if s.counter.toNat = 999 then readings.takeWhile (· = s.millis) else []

theorem next?_singleton (s : State) (now : UInt64) :
    s.next? [now] = (s.issue? now).map (·, []) := by
  rw [next?_cons, next?_nil, Option.or_none]

theorem next?_eq_none_iff {s : State} {readings : List UInt64} :
    s.next? readings = none ↔ ∀ now ∈ readings, s.issue? now = none := by
  induction readings with
  | nil => simp
  | cons now rest ih =>
    rw [next?_cons, Option.or_eq_none_iff, Option.map_eq_none_iff, ih, List.forall_mem_cons]

/-- Readings on which a call waits make no difference to it. -/
theorem next?_append_of_waits {s : State} {waited : List UInt64}
    (hw : ∀ now ∈ waited, s.issue? now = none) (rest : List UInt64) :
    s.next? (waited ++ rest) = s.next? rest := by
  induction waited with
  | nil => rfl
  | cons now waited ih =>
    obtain ⟨hnow, hw⟩ := List.forall_mem_cons.1 hw
    rw [List.cons_append, next?_cons, hnow, ih hw]
    rfl

/-- A look at a later millisecond starts it. -/
theorem issue?_of_ahead {s : State} {now : UInt64} (ahead : s.millis < now) :
    s.issue? now = some ⟨.pack now 0, now, []⟩ := by
  rw [issue?, pass, if_pos ahead]

/-- A look at an earlier millisecond starts the one after the stored one, if that one is full. -/
theorem issue?_of_full_of_behind {s : State} {now : UInt64} (full : s.counter.toNat = 999)
    (behind : now < s.millis) :
    s.issue? now = some ⟨.pack (s.millis + 1) 0, now, [.clockCarried now s.millis]⟩ := by
  have no_room : ¬ s.counter < maxTicksPerMilli - 1 := by
    rw [UInt64.lt_iff_toNat_lt, full]
    decide
  rw [issue?, pass, if_neg (UInt64.lt_asymm behind), if_neg no_room, if_pos behind]

namespace Reachable
variable {s : State}

theorem issue?_of_mem_skipped (h : s.Reachable) {readings : List UInt64} :
    ∀ now ∈ s.skipped readings, s.issue? now = none := by
  intro now mem
  rw [skipped] at mem
  split at mem
  case isTrue full =>
    have same := List.all_eq_true.1 List.all_takeWhile now mem
    exact h.issue?_eq_none_iff.2 ⟨of_decide_eq_true same, full⟩
  case isFalse => contradiction

/-- The first reading that is not passed over hands out a tick. -/
theorem exists_decisive (h : s.Reachable) (readings : List UInt64) :
    ∃ rest, readings = s.skipped readings ++ rest ∧
      ∀ now ∈ rest.head?, s.issue? now ≠ none := by
  by_cases full : s.counter.toNat = 999
  · rw [skipped, if_pos full]
    refine ⟨readings.dropWhile (· = s.millis), List.takeWhile_append_dropWhile.symm, ?_⟩
    intro now first waits
    have other := List.head?_dropWhile_not (· = s.millis) readings
    rw [Option.mem_def.1 first] at other
    exact of_decide_eq_false other (h.issue?_eq_none_iff.1 waits).1
  · rw [skipped, if_neg full]
    exact ⟨readings, rfl, fun now _ waits => full (h.issue?_eq_none_iff.1 waits).2⟩

theorem next?_eq_none_iff_skipped (h : s.Reachable) {readings : List UInt64} :
    s.next? readings = none ↔ s.skipped readings = readings := by
  rw [next?_eq_none_iff]
  constructor
  · intro all
    obtain ⟨rest, split, decides⟩ := h.exists_decisive readings
    cases rest with
    | nil => exact (split.trans (List.append_nil _)).symm
    | cons now rest =>
      have mem : now ∈ readings := split ▸ List.mem_append_right _ List.mem_cons_self
      exact absurd (all now mem) (decides now rfl)
  · intro same
    rw [← same]
    exact h.issue?_of_mem_skipped

theorem exists_next?_of_not_skipped (h : s.Reachable) {readings rest : List UInt64} {now : UInt64}
    (split : readings = s.skipped readings ++ now :: rest) :
    ∃ i, s.issue? now = some i ∧ s.next? readings = some (i, rest) := by
  obtain ⟨later, same, decides⟩ := h.exists_decisive readings
  obtain rfl : now :: rest = later := List.append_cancel_left (split.symm.trans same)
  obtain ⟨i, hi⟩ := Option.ne_none_iff_exists'.1 (decides now rfl)
  refine ⟨i, hi, ?_⟩
  rw [split, next?_append_of_waits h.issue?_of_mem_skipped, next?_cons, hi]
  rfl

end Reachable
end State

namespace Shared

/-- The steps of a thread in a call that waits: it loads the state and looks, again and again. -/
def spin (thread : Nat) (readings : List UInt64) : List (Nat × Step) :=
  readings.flatMap fun now => [(thread, .load), (thread, .look now)]

theorem put_put (c : Shared) (thread : Nat) (t u : Thread) :
    (c.put thread t).put thread u = c.put thread u := by
  rw [put, put, put, List.set_set]

theorem put_self {c : Shared} {thread : Nat} {t : Thread} (h : c.threads[thread]? = some t) :
    c.put thread t = c := by
  obtain ⟨lt, rfl⟩ := List.getElem?_eq_some_iff.1 h
  rw [put, List.set_getElem_self]

theorem getElem?_put {c : Shared} {thread : Nat} {t : Thread} (h : c.threads[thread]? = some t)
    (u : Thread) : (c.put thread u).threads[thread]? = some u := by
  obtain ⟨lt, -⟩ := List.getElem?_eq_some_iff.1 h
  exact List.getElem?_set_self lt

/-- A look that hands out nothing sends the thread back to where it loads the state. -/
theorem run?_spin_once {c : Shared} {thread since : Nat} {now : UInt64}
    (at_load : c.threads[thread]? = some ⟨.loading, since⟩) (waits : c.state.issue? now = none) :
    c.run? [(thread, .load), (thread, .look now)] = some c := by
  have undecided : (c.state.pass now).next? = none := by
    cases hp : (c.state.pass now).next? with
    | none => rfl
    | some next =>
      obtain ⟨events, hi⟩ := State.issue?_of_next? hp
      rw [waits] at hi
      contradiction
  have loaded : c.act? thread .load = some (c.put thread ⟨.looking c.state, since⟩) := by
    simp only [act?, at_load]
  have looked : (c.put thread ⟨.looking c.state, since⟩).act? thread (.look now) = some c := by
    simp only [act?, getElem?_put at_load, undecided]
    rw [put_put, put_self at_load]
  rw [run?, loaded, Option.bind_some, run?, looked]
  rfl

/-- A thread that waits changes nothing, and is as far with its call as before. -/
theorem run?_spin {c : Shared} {thread since : Nat} {readings : List UInt64}
    (at_load : c.threads[thread]? = some ⟨.loading, since⟩)
    (hw : ∀ now ∈ readings, c.state.issue? now = none) :
    c.run? (spin thread readings) = some c := by
  induction readings with
  | nil => rfl
  | cons now readings ih =>
    obtain ⟨waits, hw⟩ := List.forall_mem_cons.1 hw
    rw [spin, List.flatMap_cons, run?_append, run?_spin_once at_load waits, Option.bind_some]
    exact ih hw

end Shared

/-- A call passes over the readings in front that show the stored millisecond, if that one is full,
and over none otherwise. The first reading after them decides: the call hands out what it would have
handed out on that reading alone, so a later millisecond starts, and after an earlier one a full
millisecond gives way to the one after it. A call that finds only readings to pass over hands out
nothing and leaves the state alone, and the calls after it find what they would have found without
it. Passing over readings changes nothing in a clock that threads share. -/
theorem decides_after_skipped {s : State} (reachable : s.Reachable) (readings : List UInt64) :
    (∀ now rest, readings = s.skipped readings ++ now :: rest →
      ∃ i, s.next? readings = some (i, rest) ∧ s.next? [now] = some (i, []) ∧
        (s.millis < now → i.state = .pack now 0 ∧ i.events = []) ∧
        (s.counter.toNat = 999 → now < s.millis →
          i.state = .pack (s.millis + 1) 0 ∧ i.events = [.clockCarried now s.millis])) ∧
    (s.next? readings = none ↔ s.skipped readings = readings) ∧
    (s.next? readings = none →
      s.run 1 readings = (⟨[], s, true⟩, []) ∧
      ∀ (n : Nat) (more : List UInt64), s.run (n + 1) (readings ++ more) = s.run (n + 1) more) ∧
    ∀ (c : Shared) (thread since : Nat), c.state = s →
      c.threads[thread]? = some ⟨.loading, since⟩ →
      c.run? (Shared.spin thread (s.skipped readings)) = some c := by
  refine ⟨?decides, reachable.next?_eq_none_iff_skipped, ?fails, ?spins⟩
  case decides =>
    intro now rest split
    obtain ⟨i, hi, hn⟩ := reachable.exists_next?_of_not_skipped split
    refine ⟨i, hn, by rw [State.next?_singleton, hi]; rfl, ?_, ?_⟩
    · intro ahead
      rw [State.issue?_of_ahead ahead] at hi
      cases hi
      exact ⟨rfl, rfl⟩
    · intro full behind
      rw [State.issue?_of_full_of_behind full behind] at hi
      cases hi
      exact ⟨rfl, rfl⟩
  case fails =>
    intro none
    refine ⟨by rw [State.run, none], fun n more => ?_⟩
    rw [State.run, State.run, State.next?_append_of_waits (State.next?_eq_none_iff.1 none)]
  case spins =>
    rintro c thread since rfl at_load
    exact Shared.run?_spin at_load reachable.issue?_of_mem_skipped

/-- Millisecond 5 is full. Two looks at it are passed over, and the reading 4 carries, where 7 would
be adopted. Without either the call hands out nothing, and the next one goes by its own readings. -/
theorem decides_after_skipped_full :
    (State.pack 5 999).Reachable ∧
    [5, 5, 4, 9] = (State.pack 5 999).skipped [5, 5, 4, 9] ++ 4 :: [9] ∧
    (∃ i, (State.pack 5 999).next? [5, 5, 4, 9] = some (i, [9]) ∧
      i.state = .pack 6 0 ∧ i.events = [.clockCarried 4 5]) ∧
    (∃ i, (State.pack 5 999).next? [5, 5, 7] = some (i, []) ∧
      i.state = .pack 7 0 ∧ i.events = []) ∧
    (State.pack 5 999).next? [5, 5] = none ∧
    (State.pack 5 999).run 1 [5, 5] = (⟨[], .pack 5 999, true⟩, []) ∧
    (State.pack 5 999).run 1 ([5, 5] ++ [6]) = (State.pack 5 999).run 1 [6] ∧
    (⟨.pack 5 999, [⟨.loading, 0⟩], []⟩ : Shared).run?
        (Shared.spin 0 ((State.pack 5 999).skipped [5, 5])) =
      some ⟨.pack 5 999, [⟨.loading, 0⟩], []⟩ := by
  have reachable : (State.pack 5 999).Reachable :=
    ⟨1000, List.replicate 1000 5, by decide +kernel⟩
  have behind := (decides_after_skipped reachable [5, 5, 4, 9]).1 4 [9] (by decide)
  have ahead := (decides_after_skipped reachable [5, 5, 7]).1 7 [] (by decide)
  obtain ⟨-, fails, unchanged, spins⟩ := decides_after_skipped reachable [5, 5]
  have none : (State.pack 5 999).next? [5, 5] = none := fails.2 (by decide)
  obtain ⟨run, later⟩ := unchanged none
  refine ⟨reachable, by decide, ?_, ?_, none, run, later 0 [6], spins _ 0 0 rfl rfl⟩
  · obtain ⟨i, hn, -, -, carries⟩ := behind
    exact ⟨i, hn, carries (by decide) (by decide)⟩
  · obtain ⟨i, hn, -, adopts, -⟩ := ahead
    exact ⟨i, hn, adopts (by decide)⟩

end UniqueId.Clock
