import UniqueId.Text.Hex

/-! The digits of a number in a given width are its hexadecimal numeral with zeros before it. -/
namespace UniqueId.Text.Hex

/-- The last digit is the lowest. -/
theorem digits_succ_eq_concat (width n : Nat) :
    digits (width + 1) n = digits width (n >>> 4) ++ [digit (BitVec.ofNat 4 n)] := by
  induction width with
  | zero => rfl
  | succ width ih =>
    rw [digits, ih, digits, List.cons_append, ← Nat.shiftRight_add,
      show 4 * (width + 1) = 4 + 4 * width by omega]

/-- Digits can be written in two pieces, the higher ones first. -/
theorem digits_append (width rest n : Nat) :
    digits (width + rest) n = digits width (n >>> (4 * rest)) ++ digits rest n := by
  induction width with
  | zero => rw [Nat.zero_add, digits, List.nil_append]
  | succ width ih =>
    rw [Nat.succ_add, digits, ih, digits, List.cons_append, ← Nat.shiftRight_add,
      Nat.mul_add, Nat.add_comm]

/-- The digits depend on no more of a number than there is room for. -/
theorem digits_congr {width m n : Nat} (h : m % (1 <<< (4 * width)) = n % (1 <<< (4 * width))) :
    digits width m = digits width n := by
  induction width generalizing m n with
  | zero => rfl
  | succ width ih =>
    have room : 1 <<< (4 * (width + 1)) = 16 * 1 <<< (4 * width) := by
      rw [Nat.mul_succ, Nat.shiftLeft_add, Nat.shiftLeft_eq _ 4, Nat.mul_comm]
    rw [room] at h
    have last : BitVec.ofNat 4 m = BitVec.ofNat 4 n := by
      apply BitVec.eq_of_toNat_eq
      rw [BitVec.toNat_ofNat, BitVec.toNat_ofNat, ← Nat.mod_mul_right_mod m, h,
        Nat.mod_mul_right_mod]
    have front : (m >>> 4) % (1 <<< (4 * width)) = (n >>> 4) % (1 <<< (4 * width)) := by
      rw [Nat.shiftRight_eq_div_pow, Nat.shiftRight_eq_div_pow, ← Nat.mod_mul_right_div_self m,
        h, Nat.mod_mul_right_div_self]
    rw [digits_succ_eq_concat, digits_succ_eq_concat, ih front, last]

theorem digit_ofNat (n : Nat) : digit (BitVec.ofNat 4 n) = (n % 16).digitChar := by
  have digitChar : ∀ d : BitVec 4, digit d = d.toNat.digitChar := by decide
  rw [digitChar, BitVec.toNat_ofNat]

theorem leftpad_concat {α : Type} (width : Nat) (a b : α) (xs : List α) :
    (xs ++ [b]).leftpad (width + 1) a = xs.leftpad width a ++ [b] := by
  simp [List.leftpad]

/-- The hexadecimal numeral of a number, with zeros before it up to a width. -/
def numeral (width n : Nat) : List Char := (Nat.toDigits 16 n).leftpad width '0'

theorem digits_eq_leftpad (width : Nat) {n : Nat} (h : n < 1 <<< (4 * (width + 1))) :
    digits (width + 1) n = (Nat.toDigits 16 n).leftpad (width + 1) '0' := by
  induction width generalizing n with
  | zero =>
    have lt : n < 16 := h
    rw [digits_succ_eq_concat, digit_ofNat, Nat.mod_eq_of_lt lt, Nat.toDigits_of_lt_base lt]
    rfl
  | succ width ih =>
    have front : n >>> 4 < 1 <<< (4 * (width + 1)) := by
      rw [Nat.mul_succ, Nat.shiftLeft_add, Nat.shiftLeft_eq _ 4] at h
      rw [Nat.shiftRight_eq_div_pow]
      omega
    rw [digits_succ_eq_concat, ih front, digit_ofNat, Nat.shiftRight_eq_div_pow,
      Nat.toDigits_eq_if (n := n) (by decide)]
    by_cases short : n < 16
    -- a numeral of one digit has the zero that stands for no digits replaced
    · rw [if_pos short, Nat.div_eq_of_lt short, Nat.mod_eq_of_lt short, Nat.toDigits_zero,
        ← List.nil_append [n.digitChar], leftpad_concat]
      simp [List.leftpad, List.replicate_succ']
    · rw [if_neg short, leftpad_concat]

end UniqueId.Text.Hex
