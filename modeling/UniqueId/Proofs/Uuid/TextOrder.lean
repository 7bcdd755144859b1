import UniqueId.Proofs.Uuid.RoundTrip
import UniqueId.Proofs.Uuid.WithinKind
import UniqueId.Proofs.Words.Positional

/-! Where the order of identifiers is the order of their texts. Hyphens stand at the same places in
all texts, and the digits are in the order of their values, so texts are compared like the numbers
that they spell. Identifiers of one version are compared by their words, and hence like their
texts, unless they are time-based and of different timestamps. -/
namespace UniqueId.Uuid
open UniqueId.Text

theorem compare_chars_eq_lt_iff (cs ds : List Char) : compare cs ds = .lt ↔ cs < ds := by
  induction cs generalizing ds with
  | nil => cases ds <;> simp
  | cons c cs ih =>
    cases ds with
    | nil => simp
    | cons d ds =>
      have first : compare c d = .lt ↔ c < d := compareOfLessAndEq_eq_lt
      rw [List.compare_cons_cons, List.cons_lt_cons_iff, Ordering.then_eq_lt, first,
        Std.compare_eq_iff_eq, ih]

/-- Texts are compared character by character. -/
theorem compare_toList (s t : String) : compare s.toList t.toList = compare s t := by
  have text (s t : String) : compare s t = .lt ↔ compare s.toList t.toList = .lt := by
    rw [compare_chars_eq_lt_iff, ← String.lt_iff]
    exact compareOfLessAndEq_eq_lt
  cases h : compare s t with
  | lt => exact (text s t).1 h
  | eq => rw [Std.compare_eq_iff_eq.1 h, Std.compare_self]
  | gt => exact Std.OrientedCmp.gt_of_lt ((text t s).1 (Std.OrientedCmp.lt_of_gt h))

/-- From cell `i` on, texts are compared like the numbers that they show there, if digits are
compared by their values. -/
theorem compare_map_cell {α : Type} [Ord α] [Std.ReflOrd α] {f : Char → α}
    (digits : ∀ d e, compare (f (Hex.digit d)) (f (Hex.digit e)) = compare d.toNat e.toNat)
    (m n : Nat) {i k : Nat} (h : i + k = 36) :
    compare ((List.range' i k).map fun j => f (cell m j))
        ((List.range' i k).map fun j => f (cell n j)) =
      compare (m % (1 <<< (4 * digitsFrom i))) (n % (1 <<< (4 * digitsFrom i))) := by
  induction k generalizing i with
  | zero =>
    obtain rfl : i = 36 := h
    simp [digitsFrom, Nat.mod_one]
  | succ k ih =>
    rw [List.range'_succ, List.map_cons, List.map_cons, List.compare_cons_cons, ih (by omega)]
    by_cases hi : i ∈ hyphens
    · rw [cell, cell, if_pos hi, if_pos hi, Std.compare_self, digitsFrom_of_mem (by omega) hi]
      rfl
    · have lt (n : Nat) : n % (1 <<< (4 * digitsFrom (i + 1))) < 1 <<< (4 * digitsFrom (i + 1)) :=
        Nat.mod_lt n (by rw [Nat.one_shiftLeft]; exact Nat.two_pow_pos _)
      rw [cell, cell, if_neg hi, if_neg hi, digitAt, digitAt, digits, BitVec.toNat_ofNat,
        BitVec.toNat_ofNat, digitsFrom_of_not_mem (by omega) hi, mod_shiftLeft_succ m,
        mod_shiftLeft_succ n, compare_mul_add (lt m) (lt n)]

theorem compare_map_encode {α : Type} [Ord α] [Std.ReflOrd α] {f : Char → α}
    (digits : ∀ d e, compare (f (Hex.digit d)) (f (Hex.digit e)) = compare d.toNat e.toNat)
    (u v : Uuid) :
    compare (u.encode.toList.map f) (v.encode.toList.map f) = compare u.words v.words := by
  have all (u : Uuid) : u.words.toNumber.toNat % (1 <<< (4 * digitsFrom 0)) =
      u.words.toNumber.toNat := Nat.mod_eq_of_lt u.words.toNumber.isLt
  have cells := compare_map_cell digits u.words.toNumber.toNat v.words.toNumber.toNat
    (i := 0) (k := 36) rfl
  rw [all, all] at cells
  simp only [toList_encode, List.map_map, List.range_eq_range']
  exact cells.trans (Words.compare_eq_compare_toNumber _ _).symm

theorem compare_encode (u v : Uuid) : compare u.encode v.encode = compare u.words v.words := by
  have digits : ∀ d e, compare (Hex.digit d) (Hex.digit e) = compare d.toNat e.toNat := by decide
  rw [← compare_toList, ← List.map_id u.encode.toList, ← List.map_id v.encode.toList]
  exact compare_map_encode digits u v

theorem compare_octets_encode (u v : Uuid) :
    compare (octets u.encode) (octets v.encode) = compare u.words v.words := by
  have digits : ∀ d e, compare (UInt8.ofNat (Hex.digit d).toNat) (UInt8.ofNat (Hex.digit e).toNat)
      = compare d.toNat e.toNat := by decide
  have ascii (u : Uuid) : IsAscii u.encode := isAscii_of_toLower u.toLower_encode
  rw [octets_of_isAscii (ascii u), octets_of_isAscii (ascii v)]
  exact compare_map_encode digits u v

/-- Two identifiers are compared like the numbers, the octets and the texts that stand for them. -/
structure ComparedAsShown (u v : Uuid) : Prop where
  number : compare u v = compare u.words.toNumber.toNat v.words.toNumber.toNat
  octets : compare u v = compare u.words.toOctets.toList v.words.toOctets.toList
  text : compare u v = compare u.encode v.encode
  ascii : compare u v = compare (Uuid.octets u.encode) (Uuid.octets v.encode)

theorem comparedAsShown_of_words {u v : Uuid} (h : compare u v = compare u.words v.words) :
    ComparedAsShown u v where
  number := h.trans (Words.compare_eq_compare_toNumber u.words v.words)
  octets := h.trans (Words.compare_eq_compare_toOctets u.words v.words)
  text := h.trans (compare_encode u v).symm
  ascii := h.trans (compare_octets_encode u v).symm

/-- Identifiers of one timestamp have the same high word. -/
theorem compare_of_timestamp_eq {v w : TimeBased} (h : v.timestamp = w.timestamp) :
    compare (timeBased v) (timeBased w) = compare v.toWords w.toWords := by
  change _ = (compare v.high w.high).then (compare v.low w.low)
  rw [compare_timeBased, h, TimeBased.high_eq_of_timestamp_eq h, Std.compare_self, Std.compare_self]

/-- Identifiers of one version other than the first are compared like their numbers, their octets
and their texts, and so are time-based identifiers of one timestamp. -/
theorem order_of_texts :
    (∀ u v : Uuid, u.version = v.version → u.version ≠ 1 → ComparedAsShown u v) ∧
    ∀ v w : TimeBased, v.timestamp = w.timestamp → ComparedAsShown (timeBased v) (timeBased w) := by
  constructor
  · intro u v same ne_one
    exact comparedAsShown_of_words (compare_of_version_eq ne_one same)
  · intro v w same
    exact comparedAsShown_of_words (compare_of_timestamp_eq same)

/-- Nil beside another identifier of version zero, two random identifiers whose low words differ in
the highest bit, and two time-based ones of the same timestamp. -/
theorem order_of_texts_highest_bit :
    ComparedAsShown nil (ofWords ⟨0, 1⟩) ∧
    ComparedAsShown (ofWords ⟨0x4000, 0x7fffffffffffffff⟩)
      (ofWords ⟨0x4000, 0x8000000000000000⟩) ∧
    ComparedAsShown (ofWords ⟨0x1000, 0x7fffffffffffffff⟩)
      (ofWords ⟨0x1000, 0x8000000000000000⟩) :=
  ⟨order_of_texts.1 _ _ (by decide) (by decide), order_of_texts.1 _ _ (by decide) (by decide),
    order_of_texts.2 ⟨⟨0x1000, 0x7fffffffffffffff⟩, by decide⟩
      ⟨⟨0x1000, 0x8000000000000000⟩, by decide⟩ (by decide)⟩

/-- Time-based identifiers of different timestamps need not be in the order of their texts. -/
example :
    compare (ofWords ⟨0xffffffff00001000, 0⟩) (ofWords ⟨0x0000000000011000, 0⟩) = .lt ∧
    compare (ofWords ⟨0xffffffff00001000, 0⟩).encode (ofWords ⟨0x0000000000011000, 0⟩).encode =
      .gt := by
  rw [compare_encode]
  decide

end UniqueId.Uuid
