import Mathlib.Data.UInt
import UniqueId.Proofs.Words.BigEndian

/-! Comparison from the most significant end. The first digit in which two numbers of one length
differ decides between them, so the two words of an identifier and its sixteen octets are compared
like the number that they spell. -/
namespace UniqueId

/-- Numbers are compared by their leading parts first. -/
theorem compare_mul_add {k a b r s : Nat} (hr : r < k) (hs : s < k) :
    compare (k * a + r) (k * b + s) = (compare a b).then (compare r s) := by
  have below {a b r s : Nat} (hr : r < k) (h : a < b) : k * a + r < k * b + s :=
    calc k * a + r < k * (a + 1) := Nat.add_lt_add_left hr _
      _ ≤ k * b := Nat.mul_le_mul_left k h
      _ ≤ k * b + s := Nat.le_add_right _ _
  rcases Nat.lt_trichotomy a b with lt | rfl | gt
  · rw [Std.compare_eq_lt.2 lt, Std.compare_eq_lt.2 (below hr lt)]
    rfl
  · rw [Std.compare_self]
    simp only [Nat.compare_eq_ite_lt, Nat.add_lt_add_iff_left]
    rfl
  · rw [Std.compare_eq_gt.2 gt, Std.compare_eq_gt.2 (below hs gt)]
    rfl

/-- Octets, equally many, are compared like the numbers that they spell. -/
theorem ByteOrder.compare_number_bigEndian {bs cs : List UInt8} (h : bs.length = cs.length) :
    compare (bigEndian.number bs) (bigEndian.number cs) = compare bs cs := by
  induction bs generalizing cs with
  | nil =>
    obtain rfl := List.length_eq_zero_iff.1 h.symm
    rfl
  | cons b bs ih =>
    obtain ⟨c, cs, rfl⟩ := List.exists_cons_of_length_eq_add_one h.symm
    have rest : bs.length = cs.length := Nat.succ.inj h
    have lt := number_bigEndian_lt bs
    rw [rest] at lt
    rw [number_bigEndian_cons, number_bigEndian_cons, rest,
      compare_mul_add lt (number_bigEndian_lt cs), ih rest, List.compare_cons_cons,
      UInt8.compare_eq_toNat_compare_toNat]

theorem Octets.toNat_toNumber (o : Octets) :
    o.toNumber.toNat = ByteOrder.bigEndian.number o.toList := by
  have lt := ByteOrder.number_bigEndian_lt o.toList
  rw [Vector.length_toList] at lt
  rw [toNumber_eq, BitVec.toNat_ofNat]
  exact Nat.mod_eq_of_lt lt

namespace Words

/-- The high word stands above the low one. -/
theorem toNat_toNumber (w : Words) :
    w.toNumber.toNat = (1 <<< 64) * w.high.toNat + w.low.toNat := by
  rw [toNumber, BitVec.toNat_append, UInt64.toNat_toBitVec, UInt64.toNat_toBitVec,
    ← Nat.shiftLeft_add_eq_or_of_lt w.low.toNat_lt, Nat.shiftLeft_eq, Nat.mul_comm,
    Nat.one_shiftLeft]

/-- Beyond the low word only the high one is left. -/
theorem toNumber_shiftRight (w : Words) (k : Nat) :
    w.toNumber.toNat >>> (64 + k) = w.high.toNat >>> k := by
  rw [toNat_toNumber, Nat.shiftRight_add, Nat.shiftRight_eq_div_pow _ 64, Nat.one_shiftLeft,
    Nat.mul_add_div (by decide), Nat.div_eq_of_lt w.low.toNat_lt, Nat.add_zero]

theorem compare_eq_compare_toNumber (v w : Words) :
    compare v w = compare v.toNumber.toNat w.toNumber.toNat := by
  have lt (w : Words) : w.low.toNat < 1 <<< 64 := w.low.toNat_lt
  rw [toNat_toNumber, toNat_toNumber, compare_mul_add (lt v) (lt w),
    ← UInt64.compare_eq_toNat_compare_toNat, ← UInt64.compare_eq_toNat_compare_toNat]
  rfl

theorem compare_eq_compare_toOctets (v w : Words) :
    compare v w = compare v.toOctets.toList w.toOctets.toList := by
  have number (w : Words) : w.toNumber.toNat = ByteOrder.bigEndian.number w.toOctets.toList := by
    rw [← Octets.toNat_toNumber, toOctets, Octets.toNumber_ofNumber]
  rw [compare_eq_compare_toNumber, number, number]
  exact ByteOrder.compare_number_bigEndian (by simp)

end Words
end UniqueId
