/-! Hexadecimal digits. Writing uses lowercase; reading takes ASCII digits of either case. -/
namespace UniqueId.Text.Hex

/-- The lowercase digit of a four-bit value. -/
def digit (d : BitVec 4) : Char :=
  if d.toNat < 10 then Char.ofNat (0x30 + d.toNat) else Char.ofNat (0x57 + d.toNat)

/-- The value of an ASCII digit, given as an octet. -/
def value? (b : UInt8) : Option (BitVec 4) :=
  if 0x30 ≤ b ∧ b ≤ 0x39 then some ((b - 0x30).toBitVec.setWidth 4)
  else if 0x61 ≤ b ∧ b ≤ 0x66 then some ((b - 0x57).toBitVec.setWidth 4)
  else if 0x41 ≤ b ∧ b ≤ 0x46 then some ((b - 0x37).toBitVec.setWidth 4)
  else none

/-- The lowest `width` hexadecimal digits of a number, the most significant first. -/
def digits : Nat → Nat → List Char
  | 0, _ => []
  | width + 1, n => digit (BitVec.ofNat 4 (n >>> (4 * width))) :: digits width n

/-- The two digits of an octet. -/
def octet (b : UInt8) : List Char := digits 2 b.toNat

@[simp] theorem length_digits (width n : Nat) : (digits width n).length = width := by
  induction width with
  | zero => rfl
  | succ width ih => simp [digits, ih]

/-- Every digit that is written is read back. -/
theorem value?_digit : ∀ d, value? (digit d).val.toUInt8 = some d := by decide

end UniqueId.Text.Hex
