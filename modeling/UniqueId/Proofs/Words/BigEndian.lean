import UniqueId.Word.ByteOrder
import UniqueId.Words.Octets

/-! Numbers of 128 bits that are spelled from the most significant end, digit by digit or octet by
octet. Shifting one in is writing it after the number. -/
namespace UniqueId

theorem ofNat_shiftLeft_or {k d : Nat} (n : Nat) (h : d < 1 <<< k) :
    BitVec.ofNat 128 n <<< k ||| BitVec.ofNat 128 d = BitVec.ofNat 128 (n <<< k + d) := by
  have shifted : BitVec.ofNat 128 n <<< k = BitVec.ofNat 128 (n <<< k) := by
    apply BitVec.eq_of_toNat_eq
    rw [BitVec.toNat_shiftLeft, BitVec.toNat_ofNat, BitVec.toNat_ofNat, Nat.shiftLeft_eq,
      Nat.shiftLeft_eq, Nat.mod_mul_mod]
  rw [Nat.one_shiftLeft] at h
  rw [shifted, ← BitVec.ofNat_or, Nat.shiftLeft_add_eq_or_of_lt h]

theorem Octets.shiftIn_ofNat (n : Nat) (b : UInt8) :
    shiftIn (.ofNat 128 n) b = .ofNat 128 (256 * n + b.toNat) := by
  have octet : b.toBitVec.setWidth 128 = BitVec.ofNat 128 b.toNat := by
    apply BitVec.eq_of_toNat_eq
    simp
  rw [shiftIn, octet, ofNat_shiftLeft_or n b.toNat_lt, Nat.shiftLeft_eq, Nat.mul_comm]

/-- The number that sixteen octets spell, the most significant first. -/
theorem Octets.toNumber_eq (o : Octets) :
    o.toNumber = .ofNat 128 (ByteOrder.bigEndian.number o.toList) := by
  have fold (bs : List UInt8) (n : Nat) : bs.foldl shiftIn (.ofNat 128 n) =
      .ofNat 128 (bs.foldl (fun n b => 256 * n + b.toNat) n) := by
    induction bs generalizing n with
    | nil => rfl
    | cons b bs ih => rw [List.foldl_cons, List.foldl_cons, shiftIn_ofNat, ih]
  exact fold o.toList 0

/-- The octets of a number, the most significant first. -/
theorem Octets.toList_ofNumber (n : BitVec 128) :
    (Octets.ofNumber n).toList = ByteOrder.bigEndian.octets 16 n.toNat := by
  apply List.ext_getElem
  · simp
  · intro i hi _
    apply UInt8.toNat_inj.1
    simp [ofNumber, ByteOrder.octets]

end UniqueId
