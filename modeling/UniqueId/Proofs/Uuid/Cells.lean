import UniqueId.Proofs.Uuid.Grammar

/-! The canonical text of a number described cell by cell: hyphens at their four places, and in the
other cells the digits of the number, the most significant first. Octets show the cells of a number
exactly if they are a canonical text that spells it. -/
namespace UniqueId.Uuid
open UniqueId.Text

/-- The hexadecimal digit of a number at place `k`, the lowest being at place zero. -/
def digitAt (n k : Nat) : Char := Hex.digit (BitVec.ofNat 4 (n >>> (4 * k)))

/-- How many cells hold a digit, from cell `i` on. -/
def digitsFrom (i : Nat) : Nat := (List.range' i (36 - i)).countP (· ∉ hyphens)

/-- The character in cell `i` of the canonical text of a number. -/
def cell (n i : Nat) : Char := if i ∈ hyphens then '-' else digitAt n (digitsFrom (i + 1))

theorem cell_lt (n i : Nat) : (cell n i).toNat < 128 := by
  have digits : ∀ d, (Hex.digit d).toNat < 128 := by decide
  by_cases hi : i ∈ hyphens
  · rw [cell, if_pos hi]
    decide
  · rw [cell, if_neg hi]
    exact digits _

/-- A character of a canonical text is in lower case, and is found again from upper case. -/
theorem toLower_cell (n i : Nat) :
    (cell n i).toLower = cell n i ∧ (cell n i).toUpper.toLower = cell n i := by
  have digits : ∀ d, (Hex.digit d).toLower = Hex.digit d ∧
      (Hex.digit d).toUpper.toLower = Hex.digit d := by decide
  by_cases hi : i ∈ hyphens
  · rw [cell, if_pos hi]
    decide
  · rw [cell, if_neg hi]
    exact digits _

/-- The lowest digits of a number are the highest of them above the remainder. -/
theorem mod_shiftLeft_succ (n k : Nat) :
    n % (1 <<< (4 * (k + 1))) = (1 <<< (4 * k)) * ((n >>> (4 * k)) % 16) + n % (1 <<< (4 * k)) := by
  rw [Nat.mul_add, Nat.shiftLeft_add, Nat.shiftLeft_eq _ (4 * 1), Nat.mod_mul,
    Nat.shiftRight_eq_div_pow, Nat.one_shiftLeft, Nat.add_comm]

/-- A digit before a remainder is the number's digit at that place and the number's remainder. -/
theorem shiftLeft_add_eq_iff {n d r k : Nat} (hd : d < 16) (hr : r < 1 <<< (4 * k)) :
    d <<< (4 * k) + r = n % (1 <<< (4 * (k + 1))) ↔
      d = (n >>> (4 * k)) % 16 ∧ r = n % (1 <<< (4 * k)) := by
  have pos : 0 < 1 <<< (4 * k) := Nat.lt_of_le_of_lt (Nat.zero_le r) hr
  have lt := Nat.mod_lt n pos
  rw [mod_shiftLeft_succ, Nat.shiftLeft_eq, ← Nat.one_shiftLeft]
  generalize 1 <<< (4 * k) = p at *
  constructor
  · intro h
    have remainder : r = n % p := by
      calc r = (d * p + r) % p := by rw [Nat.mul_add_mod_self_right, Nat.mod_eq_of_lt hr]
        _ = (p * (n >>> (4 * k) % 16) + n % p) % p := by rw [h]
        _ = n % p := by rw [Nat.mul_add_mod, Nat.mod_mod]
    refine ⟨Nat.eq_of_mul_eq_mul_left pos ?_, remainder⟩
    rw [Nat.mul_comm p d]
    omega
  · rintro ⟨rfl, rfl⟩
    rw [Nat.mul_comm]

theorem lowercase_eq_hyphen (b : UInt8) : lowercase b = '-' ↔ b = 0x2d := by
  revert b
  apply forall_octet
  decide +kernel

theorem digit_eq_getElem : ∀ d : BitVec 4, ∃ h : d.toNat < numerals.length,
    Hex.digit d = numerals[d.toNat] := by decide

theorem lowercase_eq_digit (b : UInt8) (d : BitVec 4) :
    lowercase b = Hex.digit d ↔ IsHexDigit b ∧ digitValue b = d.toNat := by
  obtain ⟨hd, digit⟩ := digit_eq_getElem d
  rw [digit]
  constructor
  · intro h
    have distinct : numerals.Nodup := by decide
    rw [IsHexDigit, digitValue, h]
    exact ⟨List.getElem_mem hd, distinct.idxOf_getElem _ hd⟩
  · rintro ⟨mem, value⟩
    have place := List.getElem_idxOf (List.idxOf_lt_length_of_mem mem)
    rw [← place]
    exact getElem_congr_idx value

theorem digitsFrom_of_mem {i : Nat} (h : i < 36) (hi : i ∈ hyphens) :
    digitsFrom i = digitsFrom (i + 1) := by
  rw [digitsFrom, show 36 - i = 36 - (i + 1) + 1 by omega, List.range'_succ,
    List.countP_cons_of_neg (by simpa using hi)]
  rfl

theorem digitsFrom_of_not_mem {i : Nat} (h : i < 36) (hi : i ∉ hyphens) :
    digitsFrom i = digitsFrom (i + 1) + 1 := by
  rw [digitsFrom, show 36 - i = 36 - (i + 1) + 1 by omega, List.range'_succ,
    List.countP_cons_of_pos (by simpa using hi)]
  rfl

/-- From cell `i` on, octets show a number exactly if they fit their positions and spell what the
digits of the number from there on spell. -/
theorem map_lowercase_eq_iff (n : Nat) {i : Nat} {bs : List UInt8} (h : i + bs.length = 36) :
    bs.map lowercase = (List.range' i bs.length).map (cell n) ↔
      FitsFrom i bs ∧ spelled (hexDigits bs) = n % (1 <<< (4 * digitsFrom i)) := by
  induction bs generalizing i with
  | nil =>
    obtain rfl : i = 36 := h
    simp [fitsFrom_nil, hexDigits, spelled, digitsFrom, Nat.mod_one]
  | cons b bs ih =>
    rw [List.length_cons] at h
    rw [List.length_cons, List.range'_succ, List.map_cons, List.map_cons, List.cons.injEq,
      ih (by omega), fitsFrom_cons]
    by_cases hi : i ∈ hyphens
    -- a hyphen spells nothing, so the cells after it have the number to themselves
    · rw [cell, if_pos hi, lowercase_eq_hyphen, fitsAt_of_mem hi, digitsFrom_of_mem (by omega) hi,
        and_assoc]
      refine and_congr_right fun hb => ?_
      rw [hb]
      rfl
    -- a digit goes on top of the remainder that the cells after it spell
    · rw [cell, if_neg hi, digitAt, lowercase_eq_digit, BitVec.toNat_ofNat, fitsAt_of_not_mem hi,
        digitsFrom_of_not_mem (by omega) hi, and_assoc, and_assoc]
      refine and_congr_right fun hb => ?_
      rw [and_left_comm]
      refine and_congr_right fun fits => ?_
      have count : (hexDigits bs).length = digitsFrom (i + 1) := by
        rw [length_hexDigits fits, digitsFrom, show 36 - (i + 1) = bs.length by omega]
      have lt := spelled_lt (isHexDigit_of_mem fits)
      have taken : hexDigits (b :: bs) = b :: hexDigits bs :=
        List.filter_cons_of_pos (by simpa using hb.ne_hyphen)
      rw [count] at lt
      rw [taken, spelled, count]
      exact (shiftLeft_add_eq_iff hb.digitValue_lt lt).symm

/-- Octets show a number of 128 bits, hyphens and all, exactly if they are a canonical text whose
digits spell it. -/
theorem map_lowercase_eq_cells_iff (n : BitVec 128) (bs : List UInt8) :
    bs.map lowercase = (List.range 36).map (cell n.toNat) ↔
      IsCanonical bs ∧ spelled (hexDigits bs) = n.toNat := by
  by_cases h : bs.length = 36
  · have lt : n.toNat < 1 <<< (4 * digitsFrom 0) := n.isLt
    rw [List.range_eq_range', ← h, map_lowercase_eq_iff _ (by omega), Nat.mod_eq_of_lt lt]
    exact and_congr_left' ⟨fun fits => ⟨h, fits⟩, IsCanonical.fits⟩
  · constructor
    · intro shown
      exact absurd (by simpa using congrArg List.length shown) h
    · rintro ⟨canonical, -⟩
      exact absurd canonical.length_eq h

end UniqueId.Uuid
