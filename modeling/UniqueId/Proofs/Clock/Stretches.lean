import UniqueId.Proofs.Clock.Succession

/-! The ticks of one millisecond. A clock counts through a millisecond without a gap and then leaves
it for good, whatever the wall clock shows, so the ticks of a millisecond stand together in a run.
There are a thousand of them at most, and one less in millisecond zero, where a new clock stands
before its first tick. -/
namespace UniqueId.Clock

namespace State

/-- The counter of the next tick, if it still belongs to millisecond `m`. -/
def nextCounter (s : State) (m : Nat) : Nat :=
  if s.millis.toNat = m then s.counter.toNat + 1 else 0

theorem nextCounter_self (s : State) : s.nextCounter s.millis.toNat = s.counter.toNat + 1 :=
  if_pos rfl

theorem nextCounter_of_ne {s : State} {m : Nat} (h : s.millis.toNat ≠ m) : s.nextCounter m = 0 :=
  if_neg h

theorem nextCounter_le {s : State} (counter_le : s.counter.toNat ≤ 999) (m : Nat) :
    s.nextCounter m ≤ 1000 := by
  rw [nextCounter]
  split <;> omega

/-- A tick handed out has the next counter of its millisecond, which is the stored one or a later
one. -/
theorem counter_of_issue? {s : State} {now : UInt64} {i : Issue} (h : s.issue? now = some i)
    (hs : s.millis.toNat ≤ Gregorian.lastMillis) (hnow : now.toNat ≤ Gregorian.lastMillis) :
    i.state.counter.toNat = s.nextCounter i.state.millis.toNat ∧
      s.millis.toNat ≤ i.state.millis.toNat := by
  rw [Gregorian.lastMillis] at hs hnow
  obtain ⟨-, ⟨ahead, hp, -⟩ | ⟨-, -, hp, -⟩ | ⟨-, -, hp, -⟩⟩ := issue?_cases h
  · rw [hp.millis, hp.counter, Nat.mod_eq_of_lt (by omega)]
    exact ⟨(nextCounter_of_ne (by omega)).symm, by omega⟩
  · rw [hp.millis, hp.counter, nextCounter_self]
    exact ⟨rfl, Nat.le_refl _⟩
  · rw [hp.millis, hp.counter, Nat.mod_eq_of_lt (by omega)]
    exact ⟨(nextCounter_of_ne (by omega)).symm, by omega⟩

theorem millis_le_of_yields {s : State} {is : List Issue} (h : s.Yields is)
    (hs : s.millis.toNat ≤ Gregorian.lastMillis)
    (hw : ∀ i ∈ is, i.Within Gregorian.lastMillis) :
    ∀ i ∈ is, s.millis.toNat ≤ i.state.millis.toNat := by
  intro i hi
  have word := UInt64.lt_iff_toNat_lt.1 (word_lt_of_yields h hs hw i hi)
  rw [toNat_millis, toNat_millis]
  exact Nat.div_le_div_right (Nat.le_of_lt word)

/-- Ticks of millisecond `m` between ticks of earlier and of later milliseconds, counted on from
the state before them all. -/
structure Stretch (s : State) (m : Nat) (before stretch after : List Issue) : Prop where
  earlier : ∀ i ∈ before, i.state.millis.toNat < m
  within : ∀ i ∈ stretch, i.state.millis.toNat = m
  later : ∀ i ∈ after, m < i.state.millis.toNat
  counters : stretch.map (fun i => i.state.counter.toNat) =
    List.range' (s.nextCounter m) stretch.length
  room : s.nextCounter m + stretch.length ≤ 1000

namespace Stretch
variable {s : State} {m : Nat} {i : Issue} {before stretch after : List Issue}

/-- A tick of an earlier millisecond comes before the stretch. -/
theorem cons_earlier (h : i.state.Stretch m before stretch after)
    (millis_le : s.millis.toNat ≤ i.state.millis.toNat) (earlier : i.state.millis.toNat < m) :
    s.Stretch m (i :: before) stretch after := by
  have none_yet : i.state.nextCounter m = s.nextCounter m := by
    rw [nextCounter_of_ne (by omega), nextCounter_of_ne (by omega)]
  exact ⟨List.forall_mem_cons.2 ⟨earlier, h.earlier⟩, h.within, h.later, none_yet ▸ h.counters,
    none_yet ▸ h.room⟩

/-- A tick of the millisecond itself begins the stretch. -/
theorem cons_within (h : i.state.Stretch i.state.millis.toNat [] stretch after)
    (counter : i.state.counter.toNat = s.nextCounter i.state.millis.toNat) :
    s.Stretch i.state.millis.toNat [] (i :: stretch) after where
  earlier := h.earlier
  within := List.forall_mem_cons.2 ⟨rfl, h.within⟩
  later := h.later
  counters := by
    rw [List.map_cons, h.counters, nextCounter_self, ← counter, List.length_cons,
      List.range'_succ]
  room := by
    have room := h.room
    rw [nextCounter_self] at room
    rw [← counter, List.length_cons]
    omega

/-- Where all ticks are later, the stretch is empty. -/
theorem of_later (counter_le : s.counter.toNat ≤ 999)
    (later : ∀ i ∈ after, m < i.state.millis.toNat) : s.Stretch m [] [] after :=
  ⟨by simp, by simp, later, rfl, nextCounter_le counter_le m⟩

end Stretch

/-- By induction on the ticks, from the first, which is before, in or after the stretch. -/
theorem exists_stretch {s : State} {is : List Issue} (h : s.Yields is)
    (counter_le : s.counter.toNat ≤ 999) (hs : s.millis.toNat ≤ Gregorian.lastMillis)
    (hw : ∀ i ∈ is, i.Within Gregorian.lastMillis) (m : Nat) :
    ∃ before stretch after, is = before ++ (stretch ++ after) ∧
      s.Stretch m before stretch after := by
  induction is generalizing s with
  | nil => exact ⟨[], [], [], rfl, .of_later counter_le (by simp)⟩
  | cons i is ih =>
    obtain ⟨hi, his⟩ := h
    obtain ⟨hr, hm⟩ := hw i List.mem_cons_self
    have hw' : ∀ j ∈ is, j.Within Gregorian.lastMillis :=
      fun j hj => hw j (List.mem_cons_of_mem _ hj)
    obtain ⟨counter, millis_le⟩ := counter_of_issue? hi hs hr
    have increasing := millis_le_of_yields his hm hw'
    obtain ⟨before, stretch, after, rfl, rest⟩ := ih his (counter_le_of_issue? hi) hm hw'
    rcases Nat.lt_trichotomy i.state.millis.toNat m with earlier | rfl | later
    · exact ⟨i :: before, stretch, after, rfl, rest.cons_earlier millis_le earlier⟩
    · have none : before = [] := List.eq_nil_iff_forall_not_mem.2 fun j hj =>
        Nat.not_lt_of_le (increasing j (List.mem_append_left _ hj)) (rest.earlier j hj)
      subst none
      exact ⟨[], i :: stretch, after, rfl, rest.cons_within counter⟩
    · refine ⟨[], [], i :: (before ++ (stretch ++ after)), rfl, .of_later counter_le ?_⟩
      exact List.forall_mem_cons.2
        ⟨later, fun j hj => Nat.lt_of_lt_of_le later (increasing j hj)⟩

end State

/-- The number of the first tick of a new clock in a millisecond. -/
def firstCounter (m : UInt64) : Nat := if m = 0 then 1 else 0

theorem State.nextCounter_initial (m : UInt64) :
    State.initial.nextCounter m.toNat = firstCounter m := by
  by_cases zero : m = 0
  · rw [zero]
    rfl
  · have ne : State.initial.millis.toNat ≠ m.toNat := fun h => zero (UInt64.toNat_inj.1 h).symm
    rw [State.nextCounter_of_ne ne, firstCounter, if_neg zero]

/-- The ticks in a stretch, by their numbers. -/
theorem State.Stretch.ticks {s : State} {m : UInt64} {before stretch after : List Issue}
    (h : s.Stretch m.toNat before stretch after) :
    stretch.map Issue.tick = (List.range' (s.nextCounter m.toNat) stretch.length).map fun k =>
      Gregorian.tick m (.ofNat k) := by
  rw [← h.counters, List.map_map]
  refine List.map_congr_left fun i hi => ?_
  rw [Issue.tick, State.tick, UInt64.toNat_inj.1 (h.within i hi), Function.comp_apply,
    UInt64.ofNat_toNat]

/-- Whatever the wall clock shows, the ticks of a new clock that belong to a millisecond stand
together: ticks before them are of earlier milliseconds and ticks after them of later ones. They are
numbered without a gap, and there are no more than a millisecond has room for. If the readings
suffice, there is a tick for every call. -/
theorem ticks_of_milli {n : Nat} {readings : List UInt64}
    (hr : ∀ now ∈ readings, now.toNat ≤ Gregorian.lastMillis)
    (hm : ∀ i ∈ (State.initial.run n readings).1.issues,
      i.state.millis.toNat ≤ Gregorian.lastMillis) (m : UInt64) :
    ((State.initial.run n readings).1.exhausted = false →
      (State.initial.run n readings).1.ticks.length = n) ∧
    ∃ before stretch after,
      (State.initial.run n readings).1.ticks = before ++ (stretch ++ after) ∧
      (∀ t ∈ before, Gregorian.unixMillis t < m) ∧
      (∀ t ∈ stretch, Gregorian.unixMillis t = m) ∧
      (∀ t ∈ after, m < Gregorian.unixMillis t) ∧
      stretch = (List.range' (firstCounter m) stretch.length).map (fun k =>
        Gregorian.tick m (.ofNat k)) ∧
      firstCounter m + stretch.length ≤ maxTicksPerMilli.toNat := by
  have hw : ∀ i ∈ (State.initial.run n readings).1.issues, i.Within Gregorian.lastMillis :=
    fun i hi => ⟨hr _ (State.reading_mem_of_mem_run hi), hm i hi⟩
  obtain ⟨before, stretch, after, split, h⟩ :=
    State.exists_stretch (State.initial.yields_run n readings).1 (by decide) (by decide) hw m.toNat
  rw [split] at hm
  have millis (P : UInt64 → Prop) {part : List Issue} (sub : part ⊆ before ++ (stretch ++ after))
      (all : ∀ i ∈ part, P i.state.millis) :
      ∀ t ∈ part.map Issue.tick, P (Gregorian.unixMillis t) := by
    refine List.forall_mem_map.2 fun i hi => ?_
    rw [Issue.tick, State.unixMillis_tick (hm i (sub hi))]
    exact all i hi
  refine ⟨State.length_ticks_of_complete, before.map Issue.tick, stretch.map Issue.tick,
    after.map Issue.tick, ?_, ?_, ?_, ?_, ?_, ?_⟩
  · rw [Run.ticks, split, List.map_append, List.map_append]
  · exact millis (· < m) (by simp) fun i hi => UInt64.lt_iff_toNat_lt.2 (h.earlier i hi)
  · exact millis (· = m) (by simp) fun i hi => UInt64.toNat_inj.1 (h.within i hi)
  · exact millis (m < ·) (by simp) fun i hi => UInt64.lt_iff_toNat_lt.2 (h.later i hi)
  · rw [List.length_map, h.ticks, State.nextCounter_initial]
  · rw [List.length_map, ← State.nextCounter_initial]
    exact h.room

/-- A clock that begins at millisecond zero, where its first tick has the number 1, and is sent back
there from millisecond 7. -/
theorem ticks_of_milli_return :
    (∀ now ∈ ([0, 0, 7, 0] : List UInt64), now.toNat ≤ Gregorian.lastMillis) ∧
    (∀ i ∈ (State.initial.run 4 [0, 0, 7, 0]).1.issues,
      i.state.millis.toNat ≤ Gregorian.lastMillis) ∧
    (State.initial.run 4 [0, 0, 7, 0]).1.ticks =
      [Gregorian.tick 0 1, Gregorian.tick 0 2, Gregorian.tick 7 0, Gregorian.tick 7 1] ∧
    (State.initial.run 4 [0, 0, 7, 0]).1.ticks.length = 4 ∧
    ∃ before stretch after,
      (State.initial.run 4 [0, 0, 7, 0]).1.ticks = before ++ (stretch ++ after) ∧
      (∀ t ∈ stretch, Gregorian.unixMillis t = 0) ∧
      (∀ t ∈ after, 0 < Gregorian.unixMillis t) ∧ 1 + stretch.length ≤ 1000 := by
  have hr : ∀ now ∈ ([0, 0, 7, 0] : List UInt64), now.toNat ≤ Gregorian.lastMillis := by
    simp [Gregorian.lastMillis]
  have hm : ∀ i ∈ (State.initial.run 4 [0, 0, 7, 0]).1.issues,
      i.state.millis.toNat ≤ Gregorian.lastMillis := by decide
  obtain ⟨one_each, before, stretch, after, split, -, within, later, -, room⟩ :=
    ticks_of_milli hr hm 0
  exact ⟨hr, hm, by decide, one_each (by decide), before, stretch, after, split, within, later,
    room⟩

end UniqueId.Clock
