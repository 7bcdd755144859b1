import UniqueId.Proofs.Text.Hex
import UniqueId.Proofs.Uuid.Writing
import UniqueId.Proofs.Words.Positional

/-! The five groups of the canonical text. The first three are digits of the high word, and the last
two are digits of the low one. -/
namespace UniqueId.Uuid
open UniqueId.Text

theorem digits_eq_map (width n : Nat) :
    Hex.digits width n = (List.range width).map fun i => digitAt n (width - 1 - i) := by
  induction width with
  | zero => rfl
  | succ width ih =>
    rw [Hex.digits, ih, List.range_succ_eq_map, List.map_cons, List.map_map]
    congr 1
    apply List.map_congr_left
    intro i _
    rw [Function.comp_apply, show width + 1 - 1 - (i + 1) = width - 1 - i by omega]

theorem digits_shiftRight (width k n : Nat) :
    Hex.digits width (n >>> (4 * k)) =
      (List.range width).map fun i => digitAt n (k + (width - 1 - i)) := by
  rw [digits_eq_map]
  apply List.map_congr_left
  intro i _
  rw [digitAt, digitAt, ← Nat.shiftRight_add, Nat.mul_add]

/-- Going through the cells and going through the groups meets the same digits and hyphens. -/
theorem cells_eq_groups (digit : Nat → Char) :
    ((List.range 36).map fun i => if i ∈ hyphens then '-' else digit (digitsFrom (i + 1))) =
      (List.range 8).map (fun i => digit (24 + (8 - 1 - i))) ++
        '-' :: (List.range 4).map (fun i => digit (20 + (4 - 1 - i))) ++
        '-' :: (List.range 4).map (fun i => digit (16 + (4 - 1 - i))) ++
        '-' :: (List.range 4).map (fun i => digit (12 + (4 - 1 - i))) ++
        '-' :: (List.range 12).map fun i => digit (0 + (12 - 1 - i)) := rfl

/-- What the writer leaves is the canonical text of the number. -/
theorem toList_encode_eq_canonical (u : Uuid) : u.encode.toList = canonical u.words.toNumber := by
  rw [toList_encode]
  refine (cells_eq_groups (digitAt u.words.toNumber.toNat)).trans ?_
  simp only [← digits_shiftRight]
  rfl

/-- The text group by group, in terms of the two words. -/
theorem toList_encode_words (u : Uuid) :
    u.encode.toList =
      Hex.digits 8 (u.words.high.toNat >>> 32) ++ '-' :: Hex.digits 4 (u.words.high.toNat >>> 16) ++
        '-' :: Hex.digits 4 u.words.high.toNat ++
        '-' :: Hex.digits 4 (u.words.low.toNat >>> 48) ++ '-' :: Hex.digits 12 u.words.low.toNat := by
  have above := u.words.toNumber_shiftRight
  -- the last two groups have no room for digits of the high word
  have fourth : Hex.digits 4 (u.words.toNumber.toNat >>> 48) =
      Hex.digits 4 (u.words.low.toNat >>> 48) := by
    apply Hex.digits_congr
    rw [Words.toNat_toNumber]
    simp only [Nat.shiftRight_eq_div_pow, Nat.one_shiftLeft]
    omega
  have last : Hex.digits 12 u.words.toNumber.toNat = Hex.digits 12 u.words.low.toNat := by
    apply Hex.digits_congr
    rw [Words.toNat_toNumber]
    simp only [Nat.one_shiftLeft]
    omega
  have first : u.words.toNumber.toNat >>> 96 = u.words.high.toNat >>> 32 := above 32
  have second : u.words.toNumber.toNat >>> 80 = u.words.high.toNat >>> 16 := above 16
  have third : u.words.toNumber.toNat >>> 64 = u.words.high.toNat := above 0
  rw [toList_encode_eq_canonical, canonical, first, second, third, fourth, last]

end UniqueId.Uuid
