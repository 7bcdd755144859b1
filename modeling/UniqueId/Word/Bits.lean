/-! The bits of a 64-bit word. A word is known by its bits, and each bitwise operation says what it
does to them; statements about fields are proved bit by bit through this view. -/
namespace UniqueId.Word

/-- The bit of `w` at position `i`, position zero being the lowest. -/
def bit (w : UInt64) (i : Nat) : Bool := w.toBitVec.getLsbD i

theorem bit_eq_testBit (w : UInt64) (i : Nat) : bit w i = w.toNat.testBit i := rfl

/-- A word is the number that has its bits. -/
theorem toNat_eq_of_bit {w : UInt64} {n : Nat} (h : ∀ i, bit w i = n.testBit i) : w.toNat = n :=
  Nat.eq_of_testBit_eq h

theorem bit_of_ge (w : UInt64) {i : Nat} (h : 64 ≤ i) : bit w i = false :=
  BitVec.getLsbD_of_ge _ _ h

/-- A word has no bit above those that its size needs. -/
theorem bit_of_toNat_lt (w : UInt64) {k i : Nat} (h : w.toNat < 1 <<< k) (hi : k ≤ i) :
    bit w i = false := by
  rw [Nat.one_shiftLeft] at h
  rw [bit, BitVec.getLsbD, UInt64.toNat_toBitVec]
  exact Nat.testBit_lt_two_pow (Nat.lt_of_lt_of_le h (Nat.pow_le_pow_right (by decide) hi))

/-- Words with the same bits are equal. -/
theorem ext_bit {a b : UInt64} (h : ∀ i < 64, bit a i = bit b i) : a = b :=
  UInt64.toBitVec_inj.1 (BitVec.eq_of_getLsbD_eq h)

@[simp] theorem bit_zero (i : Nat) : bit 0 i = false := by simp [bit]

@[simp] theorem bit_and (a b : UInt64) (i : Nat) : bit (a &&& b) i = (bit a i && bit b i) := by
  simp only [bit, UInt64.toBitVec_and, BitVec.getLsbD_and]

@[simp] theorem bit_or (a b : UInt64) (i : Nat) : bit (a ||| b) i = (bit a i || bit b i) := by
  simp only [bit, UInt64.toBitVec_or, BitVec.getLsbD_or]

theorem bit_not (a : UInt64) (i : Nat) : bit (~~~a) i = (decide (i < 64) && !bit a i) := by
  simp only [bit, UInt64.toBitVec_not, BitVec.getLsbD_not]

private theorem toNat_mod_width {k : UInt64} (h : k.toNat < 64) :
    (k.toBitVec % 64).toNat = k.toNat := by
  rw [BitVec.toNat_umod, UInt64.toNat_toBitVec]
  exact Nat.mod_eq_of_lt h

theorem bit_shiftRight (a : UInt64) {k : UInt64} (h : k.toNat < 64) (i : Nat) :
    bit (a >>> k) i = bit a (k.toNat + i) := by
  simp only [bit, UInt64.toBitVec_shiftRight, BitVec.ushiftRight_eq', toNat_mod_width h,
    BitVec.getLsbD_ushiftRight]

theorem bit_shiftLeft (a : UInt64) {k : UInt64} (h : k.toNat < 64) (i : Nat) :
    bit (a <<< k) i = (decide (i < 64) && (!decide (i < k.toNat) && bit a (i - k.toNat))) := by
  simp only [bit, UInt64.toBitVec_shiftLeft, BitVec.shiftLeft_eq', toNat_mod_width h,
    BitVec.getLsbD_shiftLeft, Bool.and_assoc]

end UniqueId.Word
