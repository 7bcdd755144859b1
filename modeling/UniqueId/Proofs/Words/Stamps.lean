import UniqueId.Proofs.Layout.Spans
import UniqueId.Proofs.Word.Field

/-! What remains of the bits when the version and the variant are written over them. Both are
written into fields, six bits in all, and the other 122 are left as they were; two stamped
identifiers are equal just if these were. -/
namespace UniqueId
open Word Layout

/-- Two words agree outside a run of bits. -/
theorem Field.Spans.and_not_mask_eq_iff {f : Field} {lo width : Nat} (h : f.Spans lo width)
    (w x : UInt64) :
    w &&& ~~~f.mask = x &&& ~~~f.mask ↔
      ∀ i < 64, ¬ (lo ≤ i ∧ i < lo + width) → bit w i = bit x i := by
  have outside (w : UInt64) {i : Nat} (hi : i < 64) :
      bit (w &&& ~~~f.mask) i = (bit w i && !decide (lo ≤ i ∧ i < lo + width)) := by
    rw [bit_and, bit_not, h.bit_mask, decide_eq_true hi, Bool.true_and]
  constructor
  · intro same i hi apart
    have bits := congrArg (bit · i) same
    simpa [outside _ hi, apart] using bits
  · intro same
    apply ext_bit
    intro i hi
    rw [outside w hi, outside x hi]
    by_cases inside : lo ≤ i ∧ i < lo + width
    · simp [inside]
    · rw [same i hi inside]

namespace Words

/-- The bits that neither the version nor the variant takes: all but four of the high word and two
of the low word. -/
def unstamped (w : Words) : Words := ⟨w.high &&& 0xffffffffffff0fff, w.low &&& 0x3fffffffffffffff⟩

example : (List.range 64).countP (bit 0xffffffffffff0fff) +
    (List.range 64).countP (bit 0x3fffffffffffffff) = 122 := by decide

theorem not_mask_version : ~~~HighWord.version.mask = 0xffffffffffff0fff := by decide

theorem not_mask_variant : ~~~LowWord.variant.mask = 0x3fffffffffffffff := by decide

/-- Two pairs of words agree in all bits that neither the version nor the variant takes. -/
structure AgreeUnstamped (v w : Words) : Prop where
  high : ∀ i < 64, i ∉ [12, 13, 14, 15] → bit v.high i = bit w.high i
  low : ∀ i < 64, i ∉ [62, 63] → bit v.low i = bit w.low i

theorem unstamped_eq_iff (v w : Words) : v.unstamped = w.unstamped ↔ v.AgreeUnstamped w := by
  have version : ∀ i < 64, ¬ (12 ≤ i ∧ i < 12 + 4) ↔ i ∉ [12, 13, 14, 15] := by decide
  have variant : ∀ i < 64, ¬ (62 ≤ i ∧ i < 62 + 2) ↔ i ∉ [62, 63] := by decide
  rw [Words.ext_iff, unstamped, unstamped, ← not_mask_version, ← not_mask_variant,
    HighWord.version_spans.and_not_mask_eq_iff, LowWord.variant_spans.and_not_mask_eq_iff]
  constructor
  · rintro ⟨high, low⟩
    exact ⟨fun i hi apart => high i hi ((version i hi).2 apart),
      fun i hi apart => low i hi ((variant i hi).2 apart)⟩
  · rintro ⟨high, low⟩
    exact ⟨fun i hi apart => high i hi ((version i hi).1 apart),
      fun i hi apart => low i hi ((variant i hi).1 apart)⟩

/-- The words under a version number and the standard variant. -/
def stamp (version : UInt64) (w : Words) : Words := (w.withVersion version).withStandardVariant

@[simp] theorem unstamped_stamp (version : UInt64) (w : Words) :
    (w.stamp version).unstamped = w.unstamped := by
  apply Words.ext
  · rw [unstamped, ← not_mask_version]
    exact HighWord.version.write_and_not_mask w.high version
  · rw [unstamped, ← not_mask_variant]
    exact LowWord.variant.write_and_not_mask w.low standardVariant

theorem stamp_eq_stamp_iff (version : UInt64) (v w : Words) :
    v.stamp version = w.stamp version ↔ v.unstamped = w.unstamped := by
  rw [Words.ext_iff, Words.ext_iff, unstamped, unstamped, ← not_mask_version, ← not_mask_variant]
  exact and_congr (HighWord.version.write_eq_write_iff v.high w.high version)
    (LowWord.variant.write_eq_write_iff v.low w.low standardVariant)

/-- The variant that was written is there. -/
theorem variant_withStandardVariant (w : Words) : w.withStandardVariant.variant = .standard := by
  have top {i : Nat} (hi : i < 64) (variant : 62 ≤ i) :
      bit w.withStandardVariant.low i = bit standardVariant (i - 62) := by
    rw [withStandardVariant, LowWord.variant_spans.bit_write, if_pos ⟨variant, hi⟩]
  rw [variant_eq_standard_iff, top (by decide) (by decide), top (by decide) (by decide)]
  decide

theorem variant_stamp (version : UInt64) (w : Words) : (w.stamp version).variant = .standard :=
  (w.withVersion version).variant_withStandardVariant

theorem withVersion_eq_self_iff (w : Words) (n : UInt64) :
    w.withVersion n = w ↔ w.version = n &&& 0xf := by
  rw [Words.ext_iff]
  exact (and_iff_left rfl).trans (HighWord.version.write_eq_self_iff w.high n)

theorem withStandardVariant_eq_self_iff (w : Words) :
    w.withStandardVariant = w ↔ w.variant = .standard := by
  constructor
  · intro h
    rw [← h, variant_withStandardVariant]
  · intro h
    obtain ⟨last, before⟩ := w.variant_eq_standard_iff.1 h
    refine Words.ext rfl (ext_bit fun i hi => ?_)
    rw [withStandardVariant, LowWord.variant_spans.bit_write]
    split
    case isTrue inside =>
      obtain rfl | rfl : i = 62 ∨ i = 63 := by omega
      · rw [before]
        decide
      · rw [last]
        decide
    case isFalse => rfl

/-- Stamped words are those that a stamp leaves alone. -/
theorem stamp_eq_self_iff (version : UInt64) (w : Words) :
    w.stamp version = w ↔ w.version = version &&& 0xf ∧ w.variant = .standard := by
  rw [← withVersion_eq_self_iff, ← withStandardVariant_eq_self_iff]
  simp only [Words.ext_iff, stamp, withVersion, withStandardVariant, and_true, true_and]

/-- The last stamp counts. -/
@[simp] theorem stamp_stamp (m n : UInt64) (w : Words) : (w.stamp m).stamp n = w.stamp n := by
  simp only [stamp, withVersion, withStandardVariant, Field.write_write]

/-- The version is the last hexadecimal digit but three of the high word. -/
theorem toNat_version (w : Words) : w.version.toNat = (w.high.toNat >>> 12) % (1 <<< 4) :=
  HighWord.version_spans.toNat_read w.high

theorem toNat_low_stamp (version : UInt64) (w : Words) :
    (w.stamp version).low.toNat >>> 62 = 0b10 := by
  have lt := (w.stamp version).low.toNat_lt
  have written : LowWord.variant.read (w.stamp version).low = 0b10 :=
    (LowWord.variant.read_write w.low standardVariant).trans (by decide)
  have read := LowWord.variant_spans.toNat_read (w.stamp version).low
  rw [written, show 1 <<< 2 = 4 by decide, Nat.shiftRight_eq_div_pow] at read
  rw [Nat.shiftRight_eq_div_pow]
  have two : (0b10 : UInt64).toNat = 2 := by decide
  omega

end Words
end UniqueId
