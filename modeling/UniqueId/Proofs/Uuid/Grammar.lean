import UniqueId.Proofs.Words.BigEndian
import UniqueId.Uuid.Text

/-! The grammar of the canonical text and the number that its digits spell, in terms of positions
and numerals rather than of the reader. The reader accepts this grammar and nothing else. Octets
take the place of characters throughout: text outside ASCII has octets that fit no position. -/
namespace UniqueId.Uuid
open UniqueId.Text

/-- The digits in the order of their values. -/
def numerals : List Char := "0123456789abcdef".toList

/-- The character with the code of an octet, in lower case if it is an ASCII letter. -/
def lowercase (b : UInt8) : Char := (Char.ofNat b.toNat).toLower

def IsHexDigit (b : UInt8) : Prop := lowercase b ∈ numerals

/-- The place of an octet among the numerals. -/
def digitValue (b : UInt8) : Nat := numerals.idxOf (lowercase b)

/-- The positions of the hyphens. -/
def hyphens : List Nat := [8, 13, 18, 23]

/-- The octet may stand at position `i`. -/
def FitsAt (i : Nat) (b : UInt8) : Prop := if i ∈ hyphens then b = 0x2d else IsHexDigit b

/-- Every octet fits its position, the first one position `i`. -/
def FitsFrom (i : Nat) (bs : List UInt8) : Prop := ∀ k (h : k < bs.length), FitsAt (i + k) bs[k]

/-- Octets of the canonical text of an identifier, with digits of either case. -/
structure IsCanonical (bs : List UInt8) : Prop where
  length_eq : bs.length = 36
  fits : FitsFrom 0 bs

instance (b : UInt8) : Decidable (IsHexDigit b) := inferInstanceAs (Decidable (_ ∈ _))

instance (i : Nat) (b : UInt8) : Decidable (FitsAt i b) :=
  inferInstanceAs (Decidable (if i ∈ hyphens then b = 0x2d else IsHexDigit b))

instance (i : Nat) (bs : List UInt8) : Decidable (FitsFrom i bs) :=
  inferInstanceAs (Decidable (∀ k (h : k < bs.length), FitsAt (i + k) bs[k]))

instance (bs : List UInt8) : Decidable (IsCanonical bs) :=
  decidable_of_iff (bs.length = 36 ∧ FitsFrom 0 bs) ⟨fun h => ⟨h.1, h.2⟩, fun h => ⟨h.1, h.2⟩⟩

def octets (s : String) : List UInt8 := s.toUTF8.data.toList

/-- The octets that are not hyphens. -/
def hexDigits (bs : List UInt8) : List UInt8 := bs.filter (· ≠ 0x2d)

/-- The number that digits spell, the most significant digit first. -/
def spelled : List UInt8 → Nat
  | [] => 0
  | b :: bs => digitValue b <<< (4 * bs.length) + spelled bs

/-- The words with the upper and the lower 64 bits of a number. -/
def halves (n : Nat) : Words := ⟨UInt64.ofNat (n >>> 64), UInt64.ofNat n⟩

/-- The number after one more octet, which counts only if it is a digit. -/
def taking (n : Nat) (b : UInt8) : Nat := if b = 0x2d then n else n <<< 4 + digitValue b

/-- The number that begins with `n` and goes on with the digits among the octets. -/
def continued (n : Nat) (bs : List UInt8) : Nat :=
  n <<< (4 * (hexDigits bs).length) + spelled (hexDigits bs)

theorem forall_octet {p : UInt8 → Prop} (h : ∀ n < 256, p (UInt8.ofNat n)) (b : UInt8) : p b := by
  have hb := h b.toNat b.toNat_lt
  rwa [UInt8.ofNat_toNat] at hb

theorem IsHexDigit.ne_hyphen {b : UInt8} (h : IsHexDigit b) : b ≠ 0x2d := by
  rintro rfl
  exact absurd h (by decide)

theorem IsHexDigit.digitValue_lt {b : UInt8} (h : IsHexDigit b) : digitValue b < 16 :=
  List.idxOf_lt_length_of_mem h

/-- What the reader takes for a digit is a digit, and it takes it for its place. -/
theorem value?_eq (b : UInt8) :
    Hex.value? b = if IsHexDigit b then some (BitVec.ofNat 4 (digitValue b)) else none := by
  revert b
  apply forall_octet
  decide +kernel

theorem hyphenAt_iff (i : Nat) : hyphenAt i = true ↔ i ∈ hyphens := by
  simp [hyphenAt, hyphens, or_assoc]

theorem fitsAt_of_mem {i : Nat} (hi : i ∈ hyphens) (b : UInt8) : FitsAt i b ↔ b = 0x2d := by
  rw [FitsAt, if_pos hi]

theorem fitsAt_of_not_mem {i : Nat} (hi : i ∉ hyphens) (b : UInt8) :
    FitsAt i b ↔ IsHexDigit b := by
  rw [FitsAt, if_neg hi]

theorem fitsFrom_nil (i : Nat) : FitsFrom i [] := fun k hk => absurd hk (Nat.not_lt_zero k)

theorem fitsFrom_cons (i : Nat) (b : UInt8) (bs : List UInt8) :
    FitsFrom i (b :: bs) ↔ FitsAt i b ∧ FitsFrom (i + 1) bs := by
  constructor
  · intro h
    refine ⟨h 0 (Nat.zero_lt_succ _), fun k hk => ?_⟩
    have hs := h (k + 1) (Nat.succ_lt_succ hk)
    rwa [List.getElem_cons_succ, show i + (k + 1) = i + 1 + k by omega] at hs
  · rintro ⟨hb, hbs⟩ k hk
    cases k with
    | zero => exact hb
    | succ k =>
      have hs := hbs k (Nat.lt_of_succ_lt_succ hk)
      rwa [List.getElem_cons_succ, show i + (k + 1) = i + 1 + k by omega]

@[simp] theorem continued_nil (n : Nat) : continued n [] = n := rfl

theorem continued_cons (n : Nat) (b : UInt8) (bs : List UInt8) :
    continued n (b :: bs) = continued (taking n b) bs := by
  by_cases hb : b = 0x2d
  · simp [continued, hexDigits, taking, hb]
  · have hx : hexDigits (b :: bs) = b :: hexDigits bs := by simp [hexDigits, hb]
    rw [taking, if_neg hb, continued, continued, hx, spelled, List.length_cons,
      Nat.add_comm _ 1, Nat.mul_add, Nat.shiftLeft_add, ← Nat.add_assoc]
    simp only [Nat.shiftLeft_eq, Nat.add_mul]

/-- Shifting a digit in below a number is writing it after the number. -/
theorem shiftIn_digit (n d : Nat) (h : d < 16) :
    BitVec.ofNat 128 n <<< 4 ||| (BitVec.ofNat 4 d).setWidth 128 =
      BitVec.ofNat 128 (n <<< 4 + d) := by
  have digit : (BitVec.ofNat 4 d).setWidth 128 = BitVec.ofNat 128 d := by
    apply BitVec.eq_of_toNat_eq
    simp only [BitVec.toNat_setWidth, BitVec.toNat_ofNat]
    omega
  rw [digit, ofNat_shiftLeft_or n h]

/-- One step of the reader: an octet that fits is taken, any other ends the reading. -/
theorem readFrom_cons (i n : Nat) (b : UInt8) (bs : List UInt8) :
    readFrom i (.ofNat 128 n) (b :: bs) =
      if FitsAt i b then readFrom (i + 1) (.ofNat 128 (taking n b)) bs else none := by
  by_cases hi : i ∈ hyphens
  · have hf := fitsAt_of_mem hi b
    rw [readFrom, if_pos ((hyphenAt_iff i).2 hi)]
    by_cases hb : b = 0x2d
    · rw [if_pos hb, if_pos (hf.2 hb), taking, if_pos hb]
    · rw [if_neg hb, if_neg (mt hf.1 hb)]
  · have hf := fitsAt_of_not_mem hi b
    rw [readFrom, if_neg (mt (hyphenAt_iff i).1 hi), value?_eq]
    by_cases hb : IsHexDigit b
    · rw [if_pos hb, if_pos (hf.2 hb), taking, if_neg hb.ne_hyphen,
        ← shiftIn_digit n _ hb.digitValue_lt]
    · rw [if_neg hb, if_neg (mt hf.1 hb)]

/-- The loop of the reader: all octets fit or it fails, and the digits go on after those that
were read before. -/
theorem readFrom_eq (i n : Nat) (bs : List UInt8) :
    readFrom i (.ofNat 128 n) bs =
      if FitsFrom i bs then some (.ofNat 128 (continued n bs)) else none := by
  induction bs generalizing i n with
  | nil => rw [readFrom, if_pos (fitsFrom_nil i), continued_nil]
  | cons b bs ih =>
    rw [readFrom_cons, ih, continued_cons]
    by_cases hb : FitsAt i b
    · simp only [fitsFrom_cons, hb, if_true, true_and]
    · simp only [fitsFrom_cons, hb, if_false, false_and]

theorem continued_zero (bs : List UInt8) : continued 0 bs = spelled (hexDigits bs) := by
  rw [continued, Nat.zero_shiftLeft, Nat.zero_add]

theorem readNumber?_eq (bs : List UInt8) :
    readNumber? bs =
      if IsCanonical bs then some (.ofNat 128 (spelled (hexDigits bs))) else none := by
  rw [readNumber?]
  by_cases hl : bs.length = textLength
  · rw [if_pos hl, show (0 : BitVec 128) = .ofNat 128 0 from rfl, readFrom_eq, continued_zero]
    by_cases hf : FitsFrom 0 bs
    · rw [if_pos hf, if_pos ⟨hl, hf⟩]
    · rw [if_neg hf, if_neg fun h => hf h.fits]
  · rw [if_neg hl, if_neg fun h => hl h.length_eq]

theorem ofNumber_ofNat (n : Nat) : Words.ofNumber (.ofNat 128 n) = halves n := by
  apply Words.ext <;> apply UInt64.toNat_inj.1
  · have hn : (n % 0x100000000000000000000000000000000) >>> 64 % 0x10000000000000000 =
        n >>> 64 % 0x10000000000000000 := by
      simp only [Nat.shiftRight_eq_div_pow]
      omega
    simpa [Words.ofNumber, halves] using hn
  · simp [Words.ofNumber, halves]

theorem isHexDigit_of_mem {i : Nat} {bs : List UInt8} (h : FitsFrom i bs) :
    ∀ b ∈ hexDigits bs, IsHexDigit b := by
  intro b hb
  obtain ⟨hm, hne⟩ := List.mem_filter.1 hb
  obtain ⟨k, hk, rfl⟩ := List.mem_iff_getElem.1 hm
  by_cases hi : i + k ∈ hyphens
  · exact absurd ((fitsAt_of_mem hi _).1 (h k hk)) (by simpa using hne)
  · exact (fitsAt_of_not_mem hi _).1 (h k hk)

theorem length_hexDigits {i : Nat} {bs : List UInt8} (h : FitsFrom i bs) :
    (hexDigits bs).length = (List.range' i bs.length).countP (· ∉ hyphens) := by
  induction bs generalizing i with
  | nil => rfl
  | cons b bs ih =>
    obtain ⟨hb, hbs⟩ := (fitsFrom_cons i b bs).1 h
    rw [List.length_cons, List.range'_succ]
    by_cases hi : i ∈ hyphens
    · rw [List.countP_cons_of_neg (by simp [hi]), ← ih hbs, (fitsAt_of_mem hi b).1 hb]
      rfl
    · have hd := (fitsAt_of_not_mem hi b).1 hb
      rw [List.countP_cons_of_pos (by simpa using hi), ← ih hbs, hexDigits,
        List.filter_cons_of_pos (by simpa using hd.ne_hyphen), List.length_cons]
      rfl

theorem spelled_lt {ds : List UInt8} (h : ∀ b ∈ ds, IsHexDigit b) :
    spelled ds < 1 <<< (4 * ds.length) := by
  induction ds with
  | nil => decide
  | cons b bs ih =>
    have hb := (h b (List.mem_cons_self ..)).digitValue_lt
    have hbs := ih fun c hc => h c (List.mem_cons_of_mem _ hc)
    rw [spelled, List.length_cons]
    simp only [Nat.shiftLeft_eq, Nat.mul_add, Nat.pow_add, Nat.one_mul] at hbs ⊢
    calc digitValue b * 2 ^ (4 * bs.length) + spelled bs
        < digitValue b * 2 ^ (4 * bs.length) + 2 ^ (4 * bs.length) := Nat.add_lt_add_left hbs _
      _ = (digitValue b + 1) * 2 ^ (4 * bs.length) := (Nat.succ_mul _ _).symm
      _ ≤ 16 * 2 ^ (4 * bs.length) := Nat.mul_le_mul_right _ hb
      _ = 2 ^ (4 * bs.length) * 2 ^ (4 * 1) := Nat.mul_comm _ _

/-- The digits of a canonical text make a number of 128 bits. -/
theorem IsCanonical.spelled_lt {bs : List UInt8} (h : IsCanonical bs) :
    spelled (hexDigits bs) < 1 <<< 128 := by
  have hl : (hexDigits bs).length = 32 := by
    rw [length_hexDigits h.fits, h.length_eq]
    decide
  have hn := Uuid.spelled_lt (isHexDigit_of_mem h.fits)
  rwa [hl] at hn

theorem parse_eq (s : String) :
    parse s =
      if IsCanonical (octets s) then .ok (ofWords (halves (spelled (hexDigits (octets s)))))
      else .error ⟨s⟩ := by
  rw [parse, readNumber?_eq, ← octets]
  by_cases h : IsCanonical (octets s)
  · rw [if_pos h, if_pos h, ← ofNumber_ofNat]
  · rw [if_neg h, if_neg h]

/-- A part of a text is read as if it were the whole: what stands around it makes no difference, and
is not handed back either. -/
theorem ofSlice_eq (t : String.Slice) :
    ofSlice t =
      if IsCanonical (octets t.copy) then
        .ok (ofWords (halves (spelled (hexDigits (octets t.copy)))))
      else .error ⟨t.copy⟩ := parse_eq t.copy

/-- Parsing accepts the canonical text and nothing else: thirty-six octets, hyphens at the four
positions and digits of either case at all others. The digits are the number of the identifier,
and a text that is refused is handed back as it came. The conversions of a text, as a whole or as a
part of another, do the same. -/
theorem parse_grammar (s : String) :
    ((∃ u, parse s = .ok u) ↔ IsCanonical (octets s)) ∧
      (IsCanonical (octets s) → spelled (hexDigits (octets s)) < 1 <<< 128) ∧
      parse s =
        (if IsCanonical (octets s) then .ok (ofWords (halves (spelled (hexDigits (octets s)))))
        else .error ⟨s⟩) ∧
      ofString s = parse s ∧ ∀ t : String.Slice, t.copy = s → ofSlice t = parse s := by
  refine ⟨⟨?_, ?_⟩, IsCanonical.spelled_lt, parse_eq s, rfl, fun t same => by rw [ofSlice, same]⟩
  · rintro ⟨u, hu⟩
    by_cases h : IsCanonical (octets s)
    · exact h
    · rw [parse_eq, if_neg h] at hu
      cases hu
  · intro h
    exact ⟨_, by rw [parse_eq, if_pos h]⟩

example : parse "6ba7b810-9dad-11d1-80b4-00c04fd4é0c" =
    .error ⟨"6ba7b810-9dad-11d1-80b4-00c04fd4é0c"⟩ := by rw [parse_eq, if_neg (by decide)]

end UniqueId.Uuid
