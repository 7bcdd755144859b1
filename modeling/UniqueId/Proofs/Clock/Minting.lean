import UniqueId.Proofs.Clock.Succession
import UniqueId.Proofs.TimeBased.Fields

/-! Ticks and identifiers from one clock. Some calls take the tick itself, others an identifier
minted at it, each under an identity of its own. As long as the ticks fit the sixty bits of a
timestamp, both kinds of results increase together. -/
namespace UniqueId

/-- The last Unix millisecond at which a clock's ticks fit a timestamp. -/
def TimeBased.lastMillis : Nat := 103072857660684

namespace Clock

/-- What a caller makes of the next tick. -/
inductive Request where
  | tick
  | mint (id : NodeIdentity)
  deriving DecidableEq, Repr

inductive Product where
  | tick (t : UInt64)
  | minted (v : TimeBased)
  deriving DecidableEq, Repr

namespace Product

def timestamp : Product → UInt64
  | tick t => t
  | minted v => v.timestamp

def uuid? : Product → Option Uuid
  | tick _ => none
  | minted v => some (.timeBased v)

end Product

def Request.fill : Request → UInt64 → Product
  | tick, t => .tick t
  | mint id, t => .minted (.mint id t)

/-- What a clock's callers get, call after call, until the readings run out. -/
def State.produce (s : State) (qs : List Request) (readings : List UInt64) : List Product :=
  List.zipWith (fun q i => q.fill i.tick) qs (s.run qs.length readings).1.issues

/-- With readings enough every call gets something. -/
theorem State.length_produce_of_complete {s : State} {qs : List Request} {readings : List UInt64}
    (complete : (s.run qs.length readings).1.exhausted = false) :
    (s.produce qs readings).length = qs.length := by
  rw [State.produce, List.length_zipWith, State.length_issues_of_complete complete, Nat.min_self]

theorem State.tick_lt_sixty {s : State} (h : s.millis.toNat ≤ TimeBased.lastMillis) :
    s.tick.toNat < 1 <<< 60 := by
  have hc := s.counter_lt
  have hk : 1 <<< 60 = 1152921504606846976 := by decide
  rw [TimeBased.lastMillis] at h
  rw [State.toNat_tick (by rw [Gregorian.lastMillis]; omega), Gregorian.toNat_unixEpoch, hk]
  omega

theorem Request.timestamp_fill (q : Request) {i : Issue} (h : i.Within TimeBased.lastMillis) :
    (q.fill i.tick).timestamp = i.tick := by
  cases q with
  | tick => rfl
  | mint id => exact TimeBased.timestamp_mint_of_lt id (State.tick_lt_sixty h.2)

/-- A timestamp holds the whole tick of a clock just up to the last millisecond. -/
theorem State.timestamp_mint_tick_iff {s : State} (hc : s.counter.toNat ≤ 999)
    (fits : Gregorian.unixEpoch.toNat + 10000 * s.millis.toNat + s.counter.toNat < 1 <<< 64)
    (id : NodeIdentity) :
    (TimeBased.mint id s.tick).timestamp = s.tick ↔ s.millis.toNat ≤ TimeBased.lastMillis := by
  constructor
  · intro h
    have hlt : s.tick.toNat < 1 <<< 60 := by
      rw [← h, TimeBased.toNat_timestamp_mint]
      exact Nat.mod_lt _ (by decide)
    have hk : 1 <<< 60 = 1152921504606846976 := by decide
    rw [Gregorian.toNat_unixEpoch, show 1 <<< 64 = 18446744073709551616 by decide] at fits
    rw [State.toNat_tick (by rw [Gregorian.lastMillis]; omega), Gregorian.toNat_unixEpoch, hk] at hlt
    rw [TimeBased.lastMillis]
    omega
  · intro h
    exact TimeBased.timestamp_mint_of_lt id (State.tick_lt_sixty h)

theorem Product.compare_uuid {p q : Product} {u v : Uuid} (h : p.timestamp < q.timestamp)
    (hu : p.uuid? = some u) (hv : q.uuid? = some v) : compare u v = .lt := by
  cases p with
  | tick _ => contradiction
  | minted x =>
    cases q with
    | tick _ => contradiction
    | minted y =>
      cases hu
      cases hv
      rw [Uuid.compare_timeBased, Ordering.then_eq_lt]
      exact .inl (Std.compare_eq_lt.2 h)

theorem Product.uuid_ne {p q : Product} {u v : Uuid} (h : p.timestamp < q.timestamp)
    (hu : p.uuid? = some u) (hv : q.uuid? = some v) : u ≠ v := by
  rintro rfl
  cases p with
  | tick _ => contradiction
  | minted x =>
    cases q with
    | tick _ => contradiction
    | minted y =>
      cases hu
      cases hv
      exact UInt64.lt_irrefl _ h

/-- The products increase by their timestamps. -/
theorem State.timestamp_lt_of_produce {s : State} {qs : List Request} {readings : List UInt64}
    (hw : ∀ i ∈ (s.run qs.length readings).1.issues, i.Within TimeBased.lastMillis) :
    (s.produce qs readings).Pairwise fun p q => p.timestamp < q.timestamp := by
  have hcalendar : ∀ i ∈ (s.run qs.length readings).1.issues,
      i.Within Gregorian.lastMillis := by
    intro i hi
    obtain ⟨hr, hm⟩ := hw i hi
    rw [TimeBased.lastMillis] at hr hm
    exact ⟨by rw [Gregorian.lastMillis]; omega, by rw [Gregorian.lastMillis]; omega⟩
  have hticks := State.tick_lt_of_yields (s.yields_run qs.length readings).1 hcalendar
  rw [List.pairwise_map, List.pairwise_iff_getElem] at hticks
  rw [State.produce, List.pairwise_iff_getElem]
  intro i j hi hj hij
  rw [List.length_zipWith] at hi hj
  rw [List.getElem_zipWith, List.getElem_zipWith,
    Request.timestamp_fill _ (hw _ (List.getElem_mem _)),
    Request.timestamp_fill _ (hw _ (List.getElem_mem _))]
  exact hticks i j (by omega) (by omega) hij

/-- Whatever the wall clock shows, the ticks and timestamps of all calls increase, and so do the
minted identifiers, under whatever identities; if the readings suffice, there is one for every call.
The last millisecond is exact: from the next one on a timestamp loses part of the tick. -/
theorem produce_increasing :
    (∀ (s : State) (qs : List Request) (readings : List UInt64),
      (∀ now ∈ readings, now.toNat ≤ TimeBased.lastMillis) →
      (∀ i ∈ (s.run qs.length readings).1.issues, i.state.millis.toNat ≤ TimeBased.lastMillis) →
      ((s.produce qs readings).map Product.timestamp).Pairwise (· < ·) ∧
      ((s.produce qs readings).filterMap Product.uuid?).Pairwise (fun u v => compare u v = .lt) ∧
      ((s.produce qs readings).filterMap Product.uuid?).Nodup ∧
      ((s.run qs.length readings).1.exhausted = false →
        (s.produce qs readings).length = qs.length)) ∧
    ∀ (s : State) (id : NodeIdentity), s.counter.toNat ≤ 999 →
      Gregorian.unixEpoch.toNat + 10000 * s.millis.toNat + s.counter.toNat < 1 <<< 64 →
      ((TimeBased.mint id s.tick).timestamp = s.tick ↔ s.millis.toNat ≤ TimeBased.lastMillis) := by
  refine ⟨?_, fun s id hc fits => s.timestamp_mint_tick_iff hc fits id⟩
  intro s qs readings hr hm
  have hw : ∀ i ∈ (s.run qs.length readings).1.issues, i.Within TimeBased.lastMillis :=
    fun i hi => ⟨hr _ (State.reading_mem_of_mem_run hi), hm i hi⟩
  have hp := State.timestamp_lt_of_produce hw
  refine ⟨List.pairwise_map.2 hp, List.pairwise_filterMap.2 ?_, List.pairwise_filterMap.2 ?_,
    State.length_produce_of_complete⟩
  · exact hp.imp fun h u hu v hv => Product.compare_uuid h hu hv
  · exact hp.imp fun h u hu v hv => Product.uuid_ne h hu hv

/-- A clock that goes back, with two identities, and the last and the first millisecond at the
bound. -/
theorem produce_increasing_rollback :
    (let qs : List Request := [.mint (.truncate 1 2), .tick, .mint (.truncate 3 4)]
     State.initial.produce qs [9, 4, 12] =
        [.minted (.mint (.truncate 1 2) (Gregorian.tick 9 0)), .tick (Gregorian.tick 9 1),
          .minted (.mint (.truncate 3 4) (Gregorian.tick 12 0))] ∧
      ((State.initial.produce qs [9, 4, 12]).map Product.timestamp).Pairwise (· < ·) ∧
      ((State.initial.produce qs [9, 4, 12]).filterMap Product.uuid?).Nodup ∧
      (State.initial.produce qs [9, 4, 12]).length = 3) ∧
    (TimeBased.mint (.truncate 1 2) (State.pack 103072857660684 999).tick).timestamp =
      (State.pack 103072857660684 999).tick ∧
    (TimeBased.mint (.truncate 1 2) (State.pack 103072857660685 0).tick).timestamp ≠
      (State.pack 103072857660685 0).tick := by
  obtain ⟨increasing, -, distinct, one_each⟩ := produce_increasing.1 .initial
    [.mint (.truncate 1 2), .tick, .mint (.truncate 3 4)] [9, 4, 12]
    (by simp [TimeBased.lastMillis]) (by decide)
  have last := produce_increasing.2 (.pack 103072857660684 999) (.truncate 1 2) (by decide)
    (by decide)
  have next := produce_increasing.2 (.pack 103072857660685 0) (.truncate 1 2) (by decide)
    (by decide)
  exact ⟨⟨by decide, increasing, distinct, one_each (by decide)⟩, last.2 (by decide),
    fun h => absurd (next.1 h) (by decide)⟩

end Clock
end UniqueId
