/-! Numbers as octets, in either order. -/
namespace UniqueId

/-- Which octet of a number comes first. -/
inductive ByteOrder where
  | littleEndian
  | bigEndian
  deriving DecidableEq, Repr

namespace ByteOrder

/-- The lowest `count` octets of a number. -/
def octets (order : ByteOrder) (count n : Nat) : List UInt8 :=
  let lowestFirst := (List.range count).map fun i => UInt8.ofNat (n >>> (8 * i))
  match order with
  | littleEndian => lowestFirst
  | bigEndian => lowestFirst.reverse

/-- The number that the octets spell. -/
def number (order : ByteOrder) (bs : List UInt8) : Nat :=
  match order with
  | littleEndian => bs.foldr (fun b n => 256 * n + b.toNat) 0
  | bigEndian => bs.foldl (fun n b => 256 * n + b.toNat) 0

@[simp] theorem length_octets (order : ByteOrder) (count n : Nat) :
    (order.octets count n).length = count := by
  cases order <;> simp [octets]

/-- One more octet at the low end. -/
theorem number_bigEndian_concat (bs : List UInt8) (b : UInt8) :
    bigEndian.number (bs ++ [b]) = 256 * bigEndian.number bs + b.toNat := by
  simp [number]

private theorem shiftLeft_octet (n : Nat) : 1 <<< (8 * (n + 1)) = 256 * 1 <<< (8 * n) := by
  rw [Nat.mul_succ, Nat.shiftLeft_add, Nat.shiftLeft_eq (1 <<< (8 * n)), Nat.mul_comm]

private theorem foldl_octets (bs : List UInt8) (n : Nat) :
    bs.foldl (fun n b => 256 * n + b.toNat) n =
      (1 <<< (8 * bs.length)) * n + bs.foldl (fun n b => 256 * n + b.toNat) 0 := by
  induction bs generalizing n with
  | nil => simp
  | cons b bs ih =>
    rw [List.foldl_cons, List.foldl_cons, ih, ih (256 * 0 + b.toNat), List.length_cons,
      shiftLeft_octet, Nat.mul_zero, Nat.zero_add, Nat.mul_add, Nat.mul_left_comm, Nat.mul_assoc,
      Nat.add_assoc]

/-- One more octet at the high end. -/
theorem number_bigEndian_cons (b : UInt8) (bs : List UInt8) :
    bigEndian.number (b :: bs) = (1 <<< (8 * bs.length)) * b.toNat + bigEndian.number bs := by
  rw [number, List.foldl_cons, foldl_octets, Nat.mul_zero, Nat.zero_add]
  rfl

theorem number_bigEndian_lt (bs : List UInt8) :
    bigEndian.number bs < 1 <<< (8 * bs.length) := by
  induction bs with
  | nil => decide
  | cons b bs ih =>
    rw [number_bigEndian_cons, List.length_cons, shiftLeft_octet]
    calc (1 <<< (8 * bs.length)) * b.toNat + bigEndian.number bs
        < (1 <<< (8 * bs.length)) * (b.toNat + 1) := Nat.add_lt_add_left ih _
      _ ≤ (1 <<< (8 * bs.length)) * 256 := Nat.mul_le_mul_left _ b.toNat_lt
      _ = 256 * 1 <<< (8 * bs.length) := Nat.mul_comm _ _

end ByteOrder
end UniqueId
