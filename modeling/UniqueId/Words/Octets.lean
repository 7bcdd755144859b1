import UniqueId.Words

/-! Other views of the 128 bits: one number, high half first, and sixteen octets, most significant
first. -/
namespace UniqueId

/-- Sixteen octets, the most significant first. -/
abbrev Octets := Vector UInt8 16

namespace Octets

/-- A number with one more octet spelled after it. -/
def shiftIn (n : BitVec 128) (b : UInt8) : BitVec 128 := n <<< 8 ||| b.toBitVec.setWidth 128

/-- The number that the octets spell. -/
def toNumber (o : Octets) : BitVec 128 := o.toList.foldl shiftIn 0

def ofNumber (n : BitVec 128) : Octets :=
  Vector.ofFn fun i => ⟨n.extractLsb' (8 * (15 - i.val)) 8⟩

theorem getLsbD_foldl_shiftIn (bs : List UInt8) (n : BitVec 128) (i : Nat) (hi : i < 128) :
    (bs.foldl shiftIn n).getLsbD i =
      if i < 8 * bs.length then (bs.getD (bs.length - 1 - i / 8) 0).toBitVec.getLsbD (i % 8)
      else n.getLsbD (i - 8 * bs.length) := by
  induction bs generalizing n with
  | nil => simp
  | cons b bs ih =>
    rw [List.foldl_cons, ih, List.length_cons]
    by_cases h : i < 8 * bs.length
    · have hx : bs.length + 1 - 1 - i / 8 = (bs.length - 1 - i / 8) + 1 := by omega
      rw [if_pos h, if_pos (by omega), hx, List.getD_cons_succ]
    · rw [if_neg h, shiftIn, BitVec.getLsbD_or, BitVec.getLsbD_shiftLeft, BitVec.getLsbD_setWidth]
      by_cases hb : i < 8 * (bs.length + 1)
      · have hx : bs.length + 1 - 1 - i / 8 = 0 := by omega
        have hm : i - 8 * bs.length = i % 8 := by omega
        rw [if_pos hb, hx, List.getD_cons_zero, hm]
        simp [show i % 8 < 8 by omega, show i % 8 < 128 by omega]
      · rw [if_neg hb, BitVec.getLsbD_of_ge b.toBitVec _ (by omega),
          show i - 8 * (bs.length + 1) = i - 8 * bs.length - 8 by omega]
        simp [show ¬ i - 8 * bs.length < 8 by omega, show i - 8 * bs.length < 128 by omega]

theorem getLsbD_toNumber (o : Octets) (i : Nat) (hi : i < 128) :
    o.toNumber.getLsbD i = o[15 - i / 8].toBitVec.getLsbD (i % 8) := by
  have hk : 15 - i / 8 < 16 := by omega
  rw [toNumber, getLsbD_foldl_shiftIn _ _ _ hi, if_pos (by simp; omega)]
  simp [hk]

@[simp] theorem toNumber_ofNumber (n : BitVec 128) : (ofNumber n).toNumber = n := by
  apply BitVec.eq_of_getLsbD_eq
  intro i hi
  rw [getLsbD_toNumber _ _ hi]
  simp only [ofNumber, Vector.getElem_ofFn, BitVec.getLsbD_extractLsb']
  rw [show 8 * (15 - (15 - i / 8)) + i % 8 = i by omega]
  simp [show i % 8 < 8 by omega]

@[simp] theorem ofNumber_toNumber (o : Octets) : ofNumber o.toNumber = o := by
  apply Vector.ext
  intro k hk
  apply UInt8.toBitVec_inj.1
  apply BitVec.eq_of_getLsbD_eq
  intro i hi
  simp only [ofNumber, Vector.getElem_ofFn, BitVec.getLsbD_extractLsb']
  rw [getLsbD_toNumber _ _ (by omega)]
  simp [hi, show (8 * (15 - k) + i) / 8 = 15 - k by omega,
    show (8 * (15 - k) + i) % 8 = i by omega, show 15 - (15 - k) = k by omega]

end Octets

namespace Words

/-- The bits as one number, the high half above the low. -/
def toNumber (w : Words) : BitVec 128 := w.high.toBitVec ++ w.low.toBitVec

def ofNumber (n : BitVec 128) : Words := ⟨⟨n.extractLsb' 64 64⟩, ⟨n.extractLsb' 0 64⟩⟩

def toOctets (w : Words) : Octets := .ofNumber w.toNumber

def ofOctets (o : Octets) : Words := .ofNumber o.toNumber

@[simp] theorem ofNumber_toNumber (w : Words) : ofNumber w.toNumber = w := by
  apply Words.ext <;> apply UInt64.toBitVec_inj.1 <;> apply BitVec.eq_of_getLsbD_eq <;> intro i hi
  · simp only [ofNumber, toNumber, BitVec.getLsbD_extractLsb', BitVec.getLsbD_append]
    simp [show ¬ 64 + i < 64 by omega, hi]
  · simp only [ofNumber, toNumber, BitVec.getLsbD_extractLsb', BitVec.getLsbD_append]
    simp [hi]

@[simp] theorem toNumber_ofNumber (n : BitVec 128) : (ofNumber n).toNumber = n := by
  apply BitVec.eq_of_getLsbD_eq
  intro i hi
  simp only [ofNumber, toNumber, BitVec.getLsbD_append, BitVec.getLsbD_extractLsb']
  by_cases h : i < 64
  · simp [h]
  · simp [h, show i - 64 < 64 by omega, show 64 + (i - 64) = i by omega]

@[simp] theorem ofOctets_toOctets (w : Words) : ofOctets w.toOctets = w := by
  simp [ofOctets, toOctets]

@[simp] theorem toOctets_ofOctets (o : Octets) : (ofOctets o).toOctets = o := by
  simp [ofOctets, toOctets]

theorem toNumber_injective : Function.Injective toNumber :=
  Function.LeftInverse.injective ofNumber_toNumber

theorem toOctets_injective : Function.Injective toOctets :=
  Function.LeftInverse.injective ofOctets_toOctets

end Words
end UniqueId
