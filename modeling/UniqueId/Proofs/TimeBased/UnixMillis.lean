import UniqueId.Proofs.Clock.Limits
import UniqueId.Proofs.Uuid.Ordering
import UniqueId.Uuid.Namespace

/-! Unix milliseconds of time-based identifiers. They do not decrease along the order, also where
timestamps before the Unix epoch are concerned, of which there are many for millisecond zero. From
the epoch on, every tick that fits the timestamp is taken back to the millisecond that it was
computed from. -/
namespace UniqueId.TimeBased

theorem toNat_unixMillis (v : TimeBased) :
    v.unixMillis.toNat = (v.timestamp.toNat - Gregorian.unixEpoch.toNat) / 10000 :=
  Gregorian.toNat_unixMillis v.timestamp

/-- Subtraction stops at the epoch and division drops the rest, so neither reverses an order. -/
theorem unixMillis_le_of_timestamp_le {v w : TimeBased} (h : v.timestamp ≤ w.timestamp) :
    v.unixMillis ≤ w.unixMillis := by
  rw [UInt64.le_iff_toNat_le] at h ⊢
  rw [toNat_unixMillis, toNat_unixMillis]
  exact Nat.div_le_div_right (Nat.sub_le_sub_right h _)

theorem toNat_tick_of_lt {millis counter : UInt64}
    (fits : Gregorian.number millis counter < 1 <<< 60) :
    (Gregorian.tick millis counter).toNat = Gregorian.number millis counter :=
  Gregorian.toNat_tick_eq_iff.2 (Nat.lt_trans fits (by decide))

theorem unixMillis_mint_tick (id : NodeIdentity) {millis counter : UInt64}
    (within : counter < Gregorian.ticksPerMilli)
    (fits : Gregorian.number millis counter < 1 <<< 60) :
    (mint id (Gregorian.tick millis counter)).unixMillis = millis := by
  have number := toNat_tick_of_lt fits
  apply UInt64.toNat_inj.1
  rw [toNat_unixMillis, timestamp_mint_of_lt id (by rw [number]; exact fits), number,
    Gregorian.number, Gregorian.toNat_ticksPerMilli]
  rw [UInt64.lt_iff_toNat_lt, Gregorian.toNat_ticksPerMilli] at within
  omega

/-- Of two time-based identifiers the later one never has the smaller Unix millisecond, and an
identifier that any node mints at a tick within a millisecond has that millisecond, up to the last
tick that the timestamp has room for. -/
theorem unixMillis_of_order_and_tick :
    (∀ v w : TimeBased, Uuid.le (.timeBased v) (.timeBased w) = true →
      v.unixMillis ≤ w.unixMillis) ∧
    ∀ (id : NodeIdentity) (millis counter : UInt64), counter < Gregorian.ticksPerMilli →
      Gregorian.number millis counter < 1 <<< 60 →
      (Gregorian.tick millis counter).toNat = Gregorian.number millis counter ∧
        (mint id (Gregorian.tick millis counter)).unixMillis = millis := by
  constructor
  · intro v w h
    exact unixMillis_le_of_timestamp_le (Uuid.timestamp_le_of_le h)
  · intro id millis counter within fits
    exact ⟨toNat_tick_of_lt fits, unixMillis_mint_tick id within fits⟩

/-- A timestamp before the epoch beside one after it, whose words stand the other way round, and the
last tick of all, in a millisecond that is cut short. -/
theorem unixMillis_of_order_and_tick_last :
    (⟨⟨0xffffffff00001000, 0⟩, by decide⟩ : TimeBased).unixMillis ≤
      Uuid.Namespace.dns.unixMillis ∧
    Gregorian.number 103072857660684 6975 + 1 = 1 <<< 60 ∧
    (mint (.truncate 0x7fff 0xffffffffffff)
      (Gregorian.tick 103072857660684 6975)).unixMillis = 103072857660684 := by
  obtain ⟨order, inverse⟩ := unixMillis_of_order_and_tick
  exact ⟨order _ _ (by decide), by decide,
    (inverse (.truncate 0x7fff 0xffffffffffff) 103072857660684 6975 (by decide) (by decide)).2⟩

end UniqueId.TimeBased
