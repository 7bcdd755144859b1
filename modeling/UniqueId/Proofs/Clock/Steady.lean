import UniqueId.Proofs.Clock.Minting
import UniqueId.Proofs.Clock.Readings

/-! A wall clock that never goes back. The stored millisecond is then never ahead of a reading that
is still to come, so a new clock never carries, and every tick, and every identifier minted at it,
belongs to the millisecond that its own call read last. -/
namespace UniqueId.Clock

namespace State

/-- The readings still to come never go back, neither behind each other nor behind the millisecond
of the state. -/
structure KeptUp (s : State) (readings : List UInt64) : Prop where
  counter_le : s.counter.toNat ≤ 999
  millis_le : ∀ now ∈ readings, s.millis.toNat ≤ now.toNat
  steady : readings.Pairwise (· ≤ ·)
  fits : ∀ now ∈ readings, now.toNat ≤ TimeBased.lastMillis

theorem keptUp_initial {readings : List UInt64} (steady : readings.Pairwise (· ≤ ·))
    (fits : ∀ now ∈ readings, now.toNat ≤ TimeBased.lastMillis) : initial.KeptUp readings :=
  ⟨by decide, fun _ _ => Nat.zero_le _, steady, fits⟩

namespace KeptUp
variable {s : State} {readings : List UInt64}

theorem of_append {taken : List UInt64} (h : s.KeptUp (taken ++ readings)) : s.KeptUp readings where
  counter_le := h.counter_le
  millis_le now mem := h.millis_le now (List.mem_append_right _ mem)
  steady := (List.pairwise_append.1 h.steady).2.1
  fits now mem := h.fits now (List.mem_append_right _ mem)

/-- A carry needs a reading before the stored millisecond. -/
theorem pass_ne_carry (h : s.KeptUp readings) {now : UInt64} (mem : now ∈ readings)
    (next : State) : s.pass now ≠ .carry next := by
  have caught_up : ¬ now < s.millis :=
    UInt64.not_lt.2 (UInt64.le_iff_toNat_le.2 (h.millis_le now mem))
  rw [pass, if_neg caught_up]
  split
  · exact Pass.noConfusion
  · split <;> exact Pass.noConfusion

/-- A tick handed out leaves the state at the millisecond that was read. -/
theorem issue_at_reading {now : UInt64} (h : s.KeptUp (now :: readings)) {i : Issue}
    (hi : s.issue? now = some i) :
    i.state.millis = now ∧ i.state.counter.toNat ≤ 999 ∧ i.events = [] := by
  have reached := h.millis_le now List.mem_cons_self
  have fits := h.fits now List.mem_cons_self
  rw [TimeBased.lastMillis] at fits
  rw [← UInt64.toNat_inj]
  obtain ⟨-, ⟨-, hp, quiet⟩ | ⟨same, -, hp, quiet⟩ | ⟨behind, -⟩⟩ := issue?_cases hi
  · exact ⟨hp.millis.trans (Nat.mod_eq_of_lt (by omega)), counter_le_of_issue? hi, quiet⟩
  · exact ⟨hp.millis.trans (Nat.le_antisymm reached same), counter_le_of_issue? hi, quiet⟩
  · omega

theorem issue {now : UInt64} (h : s.KeptUp (now :: readings)) {i : Issue}
    (hi : s.issue? now = some i) : i.state.KeptUp readings := by
  obtain ⟨millis, counter_le, -⟩ := h.issue_at_reading hi
  obtain ⟨first, steady⟩ := List.pairwise_cons.1 h.steady
  refine ⟨counter_le, ?_, steady, fun later mem => h.fits later (List.mem_cons_of_mem _ mem)⟩
  intro later mem
  rw [millis]
  exact UInt64.le_iff_toNat_le.1 (first later mem)

/-- Waiting takes readings away from the front, and so does the reading that decides. -/
theorem next {rest : List UInt64} {i : Issue} (h : s.KeptUp readings)
    (hn : s.next? readings = some (i, rest)) : s.KeptUp (i.reading :: rest) := by
  obtain ⟨waited, rfl, -, -⟩ := next?_eq_some hn
  exact h.of_append

/-- Every call of a run finds the clock in such a state. -/
theorem run (h : s.KeptUp readings) (j : Nat) :
    (s.run j readings).1.state.KeptUp (s.run j readings).2 := by
  induction j generalizing s readings with
  | zero => exact h
  | succ j ih =>
    rw [State.run]
    cases hn : s.next? readings with
    | none => exact ⟨h.counter_le, by simp, .nil, by simp⟩
    | some r =>
      obtain ⟨i, rest⟩ := r
      obtain ⟨-, -, -, hi⟩ := next?_eq_some hn
      exact ih ((h.next hn).issue hi)

theorem issues (h : s.KeptUp readings) {n j : Nat} {i : Issue}
    (hj : (s.run n readings).1.issues[j]? = some i) :
    i.state.millis = i.reading ∧ i.state.counter.toNat ≤ 999 ∧ i.events = [] := by
  have call := next?_of_issues hj
  obtain ⟨-, -, -, hi⟩ := next?_eq_some call
  exact ((h.run j).next call).issue_at_reading hi

end KeptUp
end State

/-- An identifier was minted at the tick of its own call. -/
theorem State.issue_of_minted {s : State} {qs : List Request} {readings : List UInt64} {j : Nat}
    {v : TimeBased} (h : (s.produce qs readings)[j]? = some (.minted v)) :
    ∃ i id, (s.run qs.length readings).1.issues[j]? = some i ∧ v = .mint id i.tick := by
  rw [State.produce, List.getElem?_zipWith_eq_some] at h
  obtain ⟨q, i, -, hi, hv⟩ := h
  cases q with
  | tick => contradiction
  | mint id =>
    cases hv
    exact ⟨i, id, hi, rfl⟩

/-- While the wall clock never goes back, every identifier minted from a new clock shows the
millisecond that its own call read last, and fewer than a thousand ticks after its beginning. No
look at the wall clock carries, and nothing is reported. If the readings suffice, every call gets
its tick or identifier. -/
theorem minted_at_last_reading (qs : List Request) {readings : List UInt64}
    (steady : readings.Pairwise (· ≤ ·))
    (fits : ∀ now ∈ readings, now.toNat ≤ TimeBased.lastMillis) :
    (∀ j v, (State.initial.produce qs readings)[j]? = some (.minted v) →
      ∃ waited now,
        State.initial.taken (j + 1) readings =
          State.initial.taken j readings ++ (waited ++ [now]) ∧
        v.unixMillis = now ∧
        Gregorian.unixEpoch.toNat ≤ v.timestamp.toNat ∧
        (v.timestamp.toNat - Gregorian.unixEpoch.toNat) % 10000 ≤ 999) ∧
    (∀ j now next, now ∈ (State.initial.run j readings).2 →
      (State.initial.run j readings).1.state.pass now ≠ .carry next) ∧
    (State.initial.run qs.length readings).1.events = [] ∧
    ((State.initial.run qs.length readings).1.exhausted = false →
      (State.initial.produce qs readings).length = qs.length) := by
  have start := State.keptUp_initial steady fits
  refine ⟨?_, fun j now next mem => (start.run j).pass_ne_carry mem next, ?_,
    State.length_produce_of_complete⟩
  · intro j v hv
    obtain ⟨i, id, hi, rfl⟩ := State.issue_of_minted hv
    obtain ⟨waited, taken⟩ := State.taken_succ_of_issues hi
    obtain ⟨millis, counter_le, -⟩ := start.issues hi
    have within : i.state.millis.toNat ≤ TimeBased.lastMillis := by
      rw [millis]
      exact fits _ (State.reading_mem_of_mem_run (List.mem_of_getElem? hi))
    have calendar : i.state.millis.toNat ≤ Gregorian.lastMillis :=
      Nat.le_trans within (by decide)
    have timestamp : (TimeBased.mint id i.tick).timestamp = i.state.tick :=
      TimeBased.timestamp_mint_of_lt id (State.tick_lt_sixty within)
    refine ⟨waited, i.reading, taken, ?_, ?_⟩
    · rw [TimeBased.unixMillis, timestamp, State.unixMillis_tick calendar, millis]
    · rw [timestamp, State.toNat_tick calendar]
      omega
  · refine List.flatMap_eq_nil_iff.2 fun i mem => ?_
    obtain ⟨j, hj⟩ := List.mem_iff_getElem?.1 mem
    exact (start.issues hj).2.2

/-- A wall clock that stands still at zero and then goes on to 7, for an identifier between two
ticks. -/
theorem minted_at_last_reading_standstill :
    ([0, 0, 7] : List UInt64).Pairwise (· ≤ ·) ∧
    (∀ now ∈ ([0, 0, 7] : List UInt64), now.toNat ≤ TimeBased.lastMillis) ∧
    State.initial.produce [.tick, .mint (.truncate 1 2), .tick] [0, 0, 7] =
      [.tick (Gregorian.tick 0 1), .minted (.mint (.truncate 1 2) (Gregorian.tick 0 2)),
        .tick (Gregorian.tick 7 0)] ∧
    (State.initial.produce [.tick, .mint (.truncate 1 2), .tick] [0, 0, 7]).length = 3 ∧
    (State.initial.run 3 [0, 0, 7]).1.events = [] ∧
    ∃ waited now,
      State.initial.taken 2 [0, 0, 7] =
        State.initial.taken 1 [0, 0, 7] ++ (waited ++ [now]) ∧
      (TimeBased.mint (.truncate 1 2) (Gregorian.tick 0 2)).unixMillis = now := by
  have steady : ([0, 0, 7] : List UInt64).Pairwise (· ≤ ·) := by decide
  have fits : ∀ now ∈ ([0, 0, 7] : List UInt64), now.toNat ≤ TimeBased.lastMillis := by
    simp [TimeBased.lastMillis]
  obtain ⟨minted, -, quiet, one_each⟩ :=
    minted_at_last_reading [.tick, .mint (.truncate 1 2), .tick] steady fits
  obtain ⟨waited, now, taken, millis, -⟩ :=
    minted 1 (.mint (.truncate 1 2) (Gregorian.tick 0 2)) (by decide)
  exact ⟨steady, fits, by decide, one_each (by decide), quiet, waited, now, taken, millis⟩

end UniqueId.Clock
