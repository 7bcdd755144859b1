import UniqueId.Proofs.Uuid.RoundTrip
import UniqueId.Proofs.Words.Positional
import UniqueId.Proofs.Words.Stamps

/-! The buffer of the canonical text after the writer is done with it. Every cell was written once,
whatever it held before, and holds its hyphen or its digit. Two of the digits tell something on
their own: the first one of the third group is the version number, and the first one of the fourth
group announces the layout family. -/
namespace UniqueId
open Text Layout

/-- The digits that the fourth group of a text begins with in each layout family. -/
def Variant.digits : Variant → List Char
  | ncs => "01234567".toList
  | standard => "89ab".toList
  | microsoft => "cd".toList
  | reserved => "ef".toList

/-- The highest digit of the low word announces the layout family. -/
theorem Words.variant_eq_iff_digit (w : Words) (v : Variant) :
    w.variant = v ↔ Hex.digit (.ofNat 4 (w.low.toNat >>> 60)) ∈ v.digits := by
  have table : ∀ d < 16,
      (if UInt64.ofNat (d / 2) ≤ 0b011 then Variant.ncs
        else if UInt64.ofNat (d / 2) ≤ 0b101 then .standard
        else if UInt64.ofNat (d / 2) = 0b110 then .microsoft
        else .reserved) = v ↔ Hex.digit (.ofNat 4 d) ∈ v.digits := by
    cases v <;> decide
  have fits := w.low.toNat_lt
  -- the family is what is left of the digit without its lowest bit
  have family : LowWord.family.read w.low = UInt64.ofNat (w.low.toNat >>> 60 / 2) := by
    apply UInt64.toNat_inj.1
    rw [LowWord.family_spans.toNat_read, UInt64.toNat_ofNat', Nat.shiftRight_eq_div_pow,
      Nat.shiftRight_eq_div_pow, Nat.one_shiftLeft]
    omega
  have digit : w.low.toNat >>> 60 < 16 := by
    rw [Nat.shiftRight_eq_div_pow]
    omega
  rw [variant, family]
  exact table _ digit

namespace Uuid

theorem length_encode (u : Uuid) : u.encode.toList.length = textLength := by
  rw [toList_encode, List.length_map]
  exact List.length_range

theorem getElem?_encode (u : Uuid) {i : Nat} (h : i < 36) :
    u.encode.toList[i]? = some (cell u.words.toNumber.toNat i) := by
  rw [toList_encode, List.getElem?_map, List.getElem?_range h]
  rfl

theorem some_digitAt (n k : Nat) : some (digitAt n k) = numerals[(n >>> (4 * k)) % 16]? := by
  obtain ⟨h, digit⟩ := digit_eq_getElem (BitVec.ofNat 4 (n >>> (4 * k)))
  rw [digitAt, digit, ← List.getElem?_eq_getElem h, BitVec.toNat_ofNat]

theorem hyphen_encode (u : Uuid) {i : Nat} (h : i ∈ hyphens) : u.encode.toList[i]? = some '-' := by
  have bound : ∀ i ∈ hyphens, i < 36 := by decide
  rw [u.getElem?_encode (bound i h), cell, if_pos h]

/-- The cells without a hyphen hold the digits from the highest to the lowest. -/
theorem digits_encode (u : Uuid) :
    ((List.range textLength).filter (· ∉ hyphens)).map (u.encode.toList[·]?) =
      (List.range 32).map fun k => numerals[(u.words.toNumber.toNat >>> (4 * (31 - k))) % 16]? := by
  have places : ((List.range textLength).filter (· ∉ hyphens)).map (fun i => digitsFrom (i + 1)) =
      (List.range 32).map (31 - ·) := by decide
  have digit : ∀ i ∈ (List.range textLength).filter (· ∉ hyphens), u.encode.toList[i]? =
      some (digitAt u.words.toNumber.toNat (digitsFrom (i + 1))) := by
    intro i hi
    obtain ⟨bound, apart⟩ := List.mem_filter.1 hi
    rw [u.getElem?_encode (List.mem_range.1 bound), cell, if_neg (of_decide_eq_true apart)]
  calc ((List.range textLength).filter (· ∉ hyphens)).map (u.encode.toList[·]?)
      = (((List.range textLength).filter (· ∉ hyphens)).map fun i => digitsFrom (i + 1)).map
          fun k => some (digitAt u.words.toNumber.toNat k) := by
        rw [List.map_map]
        exact List.map_congr_left digit
    _ = (List.range 32).map fun k =>
          numerals[(u.words.toNumber.toNat >>> (4 * (31 - k))) % 16]? := by
        rw [places, List.map_map]
        exact List.map_congr_left fun k _ => some_digitAt _ (31 - k)

theorem version_encode (u : Uuid) : u.encode.toList[14]? = numerals[u.version.toNat]? := by
  have high : u.words.toNumber.toNat >>> (4 * 19) = u.words.high.toNat >>> 12 :=
    u.words.toNumber_shiftRight 12
  rw [version, Words.toNat_version, ← high, u.getElem?_encode (by decide)]
  exact some_digitAt u.words.toNumber.toNat 19

theorem variant_encode (u : Uuid) :
    ∃ c, u.encode.toList[19]? = some c ∧ ∀ v, u.variant = v ↔ c ∈ v.digits := by
  have low : BitVec.ofNat 4 (u.words.toNumber.toNat >>> (4 * 15)) =
      BitVec.ofNat 4 (u.words.low.toNat >>> 60) := by
    apply BitVec.eq_of_toNat_eq
    rw [BitVec.toNat_ofNat, BitVec.toNat_ofNat, Words.toNat_toNumber]
    simp only [Nat.shiftRight_eq_div_pow, Nat.one_shiftLeft]
    omega
  refine ⟨_, u.getElem?_encode (by decide), fun v => ?_⟩
  rw [variant, Words.variant_eq_iff_digit, ← low]
  exact Iff.rfl

/-- The writer fills every cell of the buffer once, one after the other, and no cell beside them, so
that the text does not depend on what the buffer held. Hyphens stand at their four places and the
digits of the number in order at all others, so every character has an octet to itself. The version
and the layout family can be read off one digit each. -/
theorem inscribe_fills (u : Uuid) :
    (inscribe u.words.toOctets).position = textLength ∧
    (inscribe u.words.toOctets).placed.map Prod.fst = List.range textLength ∧
    (∀ cells : List Char, cells.length = textLength →
      (inscribe u.words.toOctets).fill cells = u.encode.toList) ∧
    u.encode.toList.length = textLength ∧
    (∀ i ∈ hyphens, u.encode.toList[i]? = some '-') ∧
    ((List.range textLength).filter (· ∉ hyphens)).map (u.encode.toList[·]?) =
      (List.range 32).map (fun k =>
        numerals[(u.words.toNumber.toNat >>> (4 * (31 - k))) % 16]?) ∧
    IsAscii u.encode ∧
    u.encode.toList[14]? = numerals[u.version.toNat]? ∧
    ∃ c, u.encode.toList[19]? = some c ∧ ∀ v, u.variant = v ↔ c ∈ v.digits := by
  have wrote := wrote_inscribe_cells u
  refine ⟨wrote.position_eq, wrote.map_fst_placed, ?fill, u.length_encode,
    fun i => u.hyphen_encode, u.digits_encode, isAscii_of_toLower u.toLower_encode,
    u.version_encode, u.variant_encode⟩
  case fill =>
    intro cells length
    rw [toList_encode]
    exact wrote.fill_eq length

/-- A buffer that was full of hyphens, of which only those at the four places are left. -/
theorem inscribe_fills_hyphens :
    (inscribe Namespace.dns.toOctets).fill (List.replicate textLength '-') =
      (timeBased Namespace.dns).encode.toList ∧
    (timeBased Namespace.dns).encode.toList[23]? = some '-' := by
  obtain ⟨-, -, fill, -, hyphen, -⟩ := inscribe_fills (timeBased Namespace.dns)
  exact ⟨fill _ List.length_replicate, hyphen 23 (by decide)⟩

end Uuid
end UniqueId
