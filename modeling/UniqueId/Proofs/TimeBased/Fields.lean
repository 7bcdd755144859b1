import UniqueId.Proofs.Layout.Spans
import UniqueId.Uuid.Order

/-! Which bit of a time-based identifier comes from where. Minting cuts the tick and the clock
sequence into pieces and reading puts them together again, so what is read is what was minted, less
the bits that have no room. -/
namespace UniqueId
open Word Layout

namespace TimeBased

theorem bit_timestamp (v : TimeBased) (i : Nat) :
    bit v.timestamp i =
      if i < 32 then bit v.high (32 + i)
      else if i < 48 then bit v.high (i - 16)
      else if i < 60 then bit v.high (i - 48)
      else false := by
  rw [timestamp, Timestamp.high_spans.bit_write, Timestamp.mid_spans.bit_write,
    HighWord.timeLow_spans.bit_read, HighWord.timeMid_spans.bit_read,
    HighWord.timeHigh_spans.bit_read]
  by_cases low : i < 32
  · rw [if_neg (by omega), if_neg (by omega), if_pos low, decide_eq_true low, Bool.true_and]
  rw [if_neg low]
  by_cases mid : i < 48
  · rw [if_neg (by omega), if_pos (by omega), if_pos mid, decide_eq_true (by omega),
      Bool.true_and, show 16 + (i - 32) = i - 16 by omega]
  rw [if_neg mid]
  by_cases high : i < 60
  · rw [if_pos (by omega), if_pos high, decide_eq_true (by omega), Bool.true_and, Nat.zero_add]
  · rw [if_neg (by omega), if_neg (by omega), if_neg high, decide_eq_false low, Bool.false_and]

theorem bit_mint_high (id : NodeIdentity) (tick : UInt64) (i : Nat) :
    bit (mint id tick).high i =
      if 32 ≤ i ∧ i < 64 then bit tick (i - 32)
      else if 16 ≤ i ∧ i < 32 then bit tick (i + 16)
      else if 12 ≤ i ∧ i < 16 then bit 1 (i - 12)
      else decide (i < 12) && bit tick (48 + i) := by
  simp only [mint, HighWord.timeLow_spans.bit_write, HighWord.timeMid_spans.bit_write,
    HighWord.version_spans.bit_write, Timestamp.low_spans.bit_read, Timestamp.mid_spans.bit_read,
    Timestamp.high_spans.bit_read]
  by_cases low : 32 ≤ i ∧ i < 64
  · rw [if_pos low, if_pos low, decide_eq_true (by omega), Bool.true_and, Nat.zero_add]
  rw [if_neg low, if_neg low]
  by_cases mid : 16 ≤ i ∧ i < 32
  · rw [if_pos mid, if_pos mid, decide_eq_true (by omega), Bool.true_and,
      show 32 + (i - 16) = i + 16 by omega]
  · rw [if_neg mid, if_neg mid]

theorem bit_mint_low (id : NodeIdentity) (tick : UInt64) (i : Nat) :
    bit (mint id tick).low i =
      if i < 48 then bit id.node i
      else if i < 62 then bit id.clockSequence.toUInt64 (i - 48)
      else decide (i = 63) := by
  have hv : ∀ j < 2, bit standardVariant j = decide (j = 1) := by decide
  simp only [mint, LowWord.octet8_spans.bit_write, LowWord.octet9_spans.bit_write,
    ClockSequence.highAndReserved_spans.bit_read, ClockSequence.reserved_spans.bit_write,
    ClockSequence.low_spans.bit_read]
  by_cases node : i < 48
  · rw [if_neg (by omega), if_neg (by omega), if_pos node]
  rw [if_neg node]
  by_cases octet9 : i < 56
  · rw [if_neg (by omega), if_pos (by omega), if_pos (by omega), decide_eq_true (by omega),
      Bool.true_and, Nat.zero_add]
  by_cases sequence : i < 62
  · rw [if_pos (by omega), if_pos sequence, decide_eq_true (by omega), Bool.true_and,
      if_neg (by omega), show 8 + (i - 56) = i - 48 by omega]
  rw [if_neg sequence]
  by_cases variant : i < 64
  · rw [if_pos (by omega), decide_eq_true (by omega), Bool.true_and, if_pos (by omega),
      hv _ (by omega)]
    exact decide_eq_decide.2 (by omega)
  · rw [if_neg (by omega), if_neg (by omega), bit_of_ge _ (by omega), decide_eq_false (by omega)]

theorem toNat_timestamp_mint (id : NodeIdentity) (tick : UInt64) :
    (mint id tick).timestamp.toNat = tick.toNat % (1 <<< 60) := by
  apply toNat_eq_of_bit
  intro i
  rw [Nat.one_shiftLeft, Nat.testBit_mod_two_pow, ← bit_eq_testBit, bit_timestamp, bit_mint_high,
    bit_mint_high, bit_mint_high]
  by_cases low : i < 32
  · rw [if_pos low, if_pos (by omega), decide_eq_true (by omega), Bool.true_and,
      Nat.add_sub_cancel_left]
  rw [if_neg low]
  by_cases mid : i < 48
  · rw [if_pos mid, if_neg (by omega), if_pos (by omega), decide_eq_true (by omega),
      Bool.true_and, Nat.sub_add_cancel (by omega)]
  rw [if_neg mid]
  by_cases high : i < 60
  · rw [if_pos high, if_neg (by omega), if_neg (by omega), if_neg (by omega),
      decide_eq_true (by omega), decide_eq_true high, Nat.add_sub_cancel' (by omega)]
  · rw [if_neg high, decide_eq_false high, Bool.false_and]

theorem timestamp_mint_of_lt (id : NodeIdentity) {tick : UInt64} (h : tick.toNat < 1 <<< 60) :
    (mint id tick).timestamp = tick :=
  UInt64.toNat_inj.1 ((toNat_timestamp_mint id tick).trans (Nat.mod_eq_of_lt h))

theorem node_mint (id : NodeIdentity) (tick : UInt64) : (mint id tick).node = id.node := by
  apply ext_bit
  intro i _
  rw [node, LowWord.node_spans.bit_read, Nat.zero_add, bit_mint_low]
  by_cases h : i < 48
  · rw [decide_eq_true h, if_pos h, Bool.true_and]
  · rw [decide_eq_false h, Bool.false_and, bit_of_toNat_lt id.node (k := 48) id.node_lt (by omega)]

/-- The clock sequence fits its sixteen bits. -/
theorem toUInt64_clockSequence (v : TimeBased) :
    v.clockSequence.toUInt64 = LowWord.clockSequence.read v.low := by
  have h := LowWord.clockSequence_spans.toNat_read v.low
  rw [show 1 <<< 14 = 0x4000 by decide] at h
  apply UInt64.toNat_inj.1
  rw [UInt16.toNat_toUInt64, clockSequence, UInt64.toNat_toUInt16]
  omega

theorem toNat_clockSequence_mint (id : NodeIdentity) (tick : UInt64) :
    (mint id tick).clockSequence.toNat = id.clockSequence.toNat % 0x4000 := by
  rw [← UInt16.toNat_toUInt64, toUInt64_clockSequence, ← UInt16.toNat_toUInt64]
  apply toNat_eq_of_bit
  intro i
  rw [LowWord.clockSequence_spans.bit_read, bit_mint_low, show 0x4000 = 1 <<< 14 by decide,
    Nat.one_shiftLeft, Nat.testBit_mod_two_pow, ← bit_eq_testBit]
  by_cases h : i < 14
  · rw [decide_eq_true h, if_neg (by omega), if_pos (by omega), Nat.add_sub_cancel_left]
  · rw [decide_eq_false h, Bool.false_and, Bool.false_and]

end TimeBased

theorem Uuid.compare_timeBased (v w : TimeBased) :
    compare (timeBased v) (timeBased w) =
      (compare v.timestamp w.timestamp).then (compare v.low w.low) := by
  have hv : (timeBased v).version = 1 := v.version_eq
  have hw : (timeBased w).version = 1 := w.version_eq
  change (compare (timeBased v).version (timeBased w).version).then (compare v w) = _
  rw [hv, hw]
  rfl

end UniqueId
