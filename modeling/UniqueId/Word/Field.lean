import UniqueId.Word.Bits

/-! Bit fields of 64-bit words. A field is a non-empty set of bits of a word, contiguous or not,
together with the position of its lowest bit. Reading moves the field down to bit zero; writing
moves a value up and keeps every bit outside the field. -/
namespace UniqueId
open Word

/-- The bit at position `k` is set and no lower bit is. -/
def IsLowestBit (mask : UInt64) (k : Nat) : Prop := bit mask k = true ∧ ∀ i < k, bit mask i = false

instance (mask : UInt64) (k : Nat) : Decidable (IsLowestBit mask k) :=
  inferInstanceAs (Decidable (_ ∧ _))

/-- A set of bits of a word and the position of the lowest of them. -/
structure Field where
  mask : UInt64
  offset : UInt64
  lowest : IsLowestBit mask offset.toNat := by decide

namespace Field

/-- The field of the given bits, if the offset is the position of the lowest of them. -/
def ofMask? (mask offset : UInt64) : Option Field :=
  if h : IsLowestBit mask offset.toNat then some ⟨mask, offset, h⟩ else none

/-- The bits of the field in `w`, moved down to bit zero. -/
def read (f : Field) (w : UInt64) : UInt64 := (f.mask >>> f.offset) &&& (w >>> f.offset)

/-- The word `w` with the field replaced by the low bits of `v`. -/
def write (f : Field) (w v : UInt64) : UInt64 := (w &&& ~~~f.mask) ||| (f.mask &&& (v <<< f.offset))

/-- The bits that a value of the field can have. -/
def limit (f : Field) : UInt64 := f.mask >>> f.offset

/-- Two fields that share no bit. -/
def Disjoint (f g : Field) : Prop := f.mask &&& g.mask = 0

instance (f g : Field) : Decidable (f.Disjoint g) := inferInstanceAs (Decidable (_ = _))

theorem offset_lt (f : Field) : f.offset.toNat < 64 := by
  by_cases h : f.offset.toNat < 64
  · exact h
  · have hf := f.lowest.1
    rw [bit_of_ge _ (Nat.le_of_not_lt h)] at hf
    contradiction

theorem bit_mask_of_lt (f : Field) {i : Nat} (h : i < f.offset.toNat) : bit f.mask i = false :=
  f.lowest.2 i h

@[simp] theorem bit_limit (f : Field) (i : Nat) :
    bit f.limit i = bit f.mask (f.offset.toNat + i) := by
  rw [limit, bit_shiftRight _ f.offset_lt]

@[simp] theorem bit_read (f : Field) (w : UInt64) (i : Nat) :
    bit (f.read w) i = (bit f.mask (f.offset.toNat + i) && bit w (f.offset.toNat + i)) := by
  rw [read, bit_and, bit_shiftRight _ f.offset_lt, bit_shiftRight _ f.offset_lt]

@[simp] theorem bit_write (f : Field) (w v : UInt64) (i : Nat) :
    bit (f.write w v) i =
      if bit f.mask i then bit v (i - f.offset.toNat) else bit w i := by
  by_cases hi : i < 64
  · by_cases hm : bit f.mask i = true
    · have ho : ¬ i < f.offset.toNat := fun h => by simp [f.bit_mask_of_lt h] at hm
      simp [write, bit_not, bit_shiftLeft _ f.offset_lt, hi, hm, ho]
    · simp [write, bit_not, hi, hm]
  · simp [bit_of_ge _ (Nat.le_of_not_lt hi)]

/-- What was written is read back, less the bits that the field has no room for. -/
theorem read_write (f : Field) (w v : UInt64) : f.read (f.write w v) = v &&& f.limit := by
  apply ext_bit
  intro i _
  cases h : bit f.mask (f.offset.toNat + i) <;> simp [h]

/-- Writing one field leaves every field that shares no bit with it alone. -/
theorem read_write_of_disjoint {f g : Field} (h : f.Disjoint g) (w v : UInt64) :
    g.read (f.write w v) = g.read w := by
  apply ext_bit
  intro i _
  have hb : bit (f.mask &&& g.mask) (g.offset.toNat + i) = false := by
    rw [show f.mask &&& g.mask = 0 from h, bit_zero]
  cases hg : bit g.mask (g.offset.toNat + i) with
  | false => simp [hg]
  | true => simp_all

end Field
end UniqueId
