import UniqueId.Words

/-! Every field of the layout is a run of neighbouring bits. A field that spans a run reads and
writes that run and nothing else, so statements about nested reads and writes come down to
comparing positions. -/
namespace UniqueId
open Word

/-- The field is the run of `width` bits from `lo` on. -/
structure Field.Spans (f : Field) (lo width : Nat) : Prop where
  offset_eq : f.offset.toNat = lo
  bit_mask : ∀ i, bit f.mask i = decide (lo ≤ i ∧ i < lo + width)

namespace Field.Spans
variable {f g : Field} {lo width : Nat}

theorem of_bits (ho : f.offset.toNat = lo) (fits : lo + width ≤ 64)
    (h : ∀ i < 64, bit f.mask i = decide (lo ≤ i ∧ i < lo + width)) : f.Spans lo width := by
  refine ⟨ho, fun i => ?_⟩
  by_cases hi : i < 64
  · exact h i hi
  · rw [bit_of_ge _ (Nat.le_of_not_lt hi), decide_eq_false (by omega)]

theorem bit_read (h : f.Spans lo width) (w : UInt64) (i : Nat) :
    bit (f.read w) i = (decide (i < width) && bit w (lo + i)) := by
  rw [Field.bit_read, h.offset_eq, h.bit_mask]
  congr 1
  exact decide_eq_decide.2 (by omega)

theorem bit_write (h : f.Spans lo width) (w v : UInt64) (i : Nat) :
    bit (f.write w v) i = if lo ≤ i ∧ i < lo + width then bit v (i - lo) else bit w i := by
  rw [Field.bit_write, h.offset_eq, h.bit_mask]
  by_cases hi : lo ≤ i ∧ i < lo + width
  · rw [if_pos hi, if_pos (decide_eq_true hi)]
  · rw [if_neg hi, if_neg (by simpa using hi)]

theorem toNat_read (h : f.Spans lo width) (w : UInt64) :
    (f.read w).toNat = (w.toNat >>> lo) % (1 <<< width) := by
  apply toNat_eq_of_bit
  intro i
  rw [h.bit_read, Nat.one_shiftLeft, Nat.testBit_mod_two_pow, Nat.testBit_shiftRight]
  rfl

/-- What fits is read back as it was written. -/
theorem read_write_of_lt (h : f.Spans lo width) (w : UInt64) {v : UInt64}
    (lt : v.toNat < 1 <<< width) : f.read (f.write w v) = v := by
  apply ext_bit
  intro i hi
  rw [h.bit_read, h.bit_write]
  by_cases inside : i < width
  · rw [decide_eq_true inside, Bool.true_and, if_pos (by omega), Nat.add_sub_cancel_left]
  · rw [decide_eq_false inside, Bool.false_and, bit_of_toNat_lt v lt (by omega)]

/-- A run within a run is a run. -/
theorem toNat_read_read {lo' width' : Nat} (hf : f.Spans lo width) (hg : g.Spans lo' width')
    (inside : lo' + width' ≤ width) (w : UInt64) :
    (g.read (f.read w)).toNat = (w.toNat >>> (lo + lo')) % (1 <<< width') := by
  apply toNat_eq_of_bit
  intro i
  rw [hg.bit_read, hf.bit_read, Nat.one_shiftLeft, Nat.testBit_mod_two_pow, Nat.testBit_shiftRight,
    Nat.add_assoc]
  by_cases h : i < width'
  · rw [decide_eq_true (show lo' + i < width by omega), Bool.true_and]
    rfl
  · rw [decide_eq_false h, Bool.false_and, Bool.false_and]

/-- A value written over the upper end of what a word holds stands above what is left of it. -/
theorem toNat_write (h : f.Spans lo width) (w v : UInt64) (below : w.toNat < 1 <<< (lo + width))
    (fits : v.toNat < 1 <<< width) :
    (f.write w v).toNat = (1 <<< lo) * v.toNat + w.toNat % (1 <<< lo) := by
  apply toNat_eq_of_bit
  intro i
  rw [Nat.one_shiftLeft, Nat.testBit_two_pow_mul_add _ (Nat.mod_lt _ (Nat.two_pow_pos lo)),
    Nat.testBit_mod_two_pow, h.bit_write]
  by_cases low : i < lo
  · rw [if_neg (by omega), if_pos low, decide_eq_true low, Bool.true_and]
    rfl
  rw [if_neg low]
  by_cases high : i < lo + width
  · rw [if_pos (by omega)]
    rfl
  · rw [if_neg (by omega), bit_of_toNat_lt w below (by omega)]
    exact (bit_of_toNat_lt v fits (by omega)).symm

end Field.Spans

namespace Layout

namespace Timestamp

theorem low_spans : low.Spans 0 32 := .of_bits (by decide) (by decide) (by decide)
theorem mid_spans : mid.Spans 32 16 := .of_bits (by decide) (by decide) (by decide)
theorem high_spans : high.Spans 48 12 := .of_bits (by decide) (by decide) (by decide)

end Timestamp

namespace ClockSequence

theorem low_spans : low.Spans 0 8 := .of_bits (by decide) (by decide) (by decide)
theorem high_spans : high.Spans 8 6 := .of_bits (by decide) (by decide) (by decide)
theorem reserved_spans : reserved.Spans 14 2 := .of_bits (by decide) (by decide) (by decide)
theorem highAndReserved_spans : highAndReserved.Spans 8 8 :=
  .of_bits (by decide) (by decide) (by decide)

end ClockSequence

namespace HighWord

theorem version_spans : version.Spans 12 4 := .of_bits (by decide) (by decide) (by decide)
theorem timeLow_spans : timeLow.Spans 32 32 := .of_bits (by decide) (by decide) (by decide)
theorem timeMid_spans : timeMid.Spans 16 16 := .of_bits (by decide) (by decide) (by decide)
theorem timeHigh_spans : timeHigh.Spans 0 12 := .of_bits (by decide) (by decide) (by decide)

end HighWord

namespace LowWord

theorem octet8_spans : octet8.Spans 56 8 := .of_bits (by decide) (by decide) (by decide)
theorem octet9_spans : octet9.Spans 48 8 := .of_bits (by decide) (by decide) (by decide)
theorem clockSequence_spans : clockSequence.Spans 48 14 :=
  .of_bits (by decide) (by decide) (by decide)
theorem node_spans : node.Spans 0 48 := .of_bits (by decide) (by decide) (by decide)
theorem variant_spans : variant.Spans 62 2 := .of_bits (by decide) (by decide) (by decide)
theorem family_spans : family.Spans 61 3 := .of_bits (by decide) (by decide) (by decide)

end LowWord

end Layout

/-- The layout family read off the three top bits of the low word. -/
theorem Words.variant_eq (w : Words) :
    w.variant =
      if bit w.low 63 then
        if bit w.low 62 then if bit w.low 61 then .reserved else .microsoft else .standard
      else .ncs := by
  have top : ∀ n < 8,
      (if UInt64.ofNat n ≤ 0b011 then Variant.ncs
        else if UInt64.ofNat n ≤ 0b101 then .standard
        else if UInt64.ofNat n = 0b110 then .microsoft
        else .reserved) =
      if bit (UInt64.ofNat n) 2 then
        if bit (UInt64.ofNat n) 1 then
          if bit (UInt64.ofNat n) 0 then .reserved else .microsoft
        else .standard
      else .ncs := by decide
  have spans := Layout.LowWord.family_spans
  have lt : (Layout.LowWord.family.read w.low).toNat < 8 := by
    rw [spans.toNat_read]
    exact Nat.mod_lt _ (by decide)
  have read := top _ lt
  rw [UInt64.ofNat_toNat, spans.bit_read, spans.bit_read, spans.bit_read] at read
  exact read

/-- The two top bits of the low word announce the layout defined here. -/
theorem Words.variant_eq_standard_iff (w : Words) :
    w.variant = .standard ↔ bit w.low 63 = true ∧ bit w.low 62 = false := by
  rw [variant_eq]
  cases bit w.low 63 <;> cases bit w.low 62 <;> cases bit w.low 61 <;> simp

end UniqueId
