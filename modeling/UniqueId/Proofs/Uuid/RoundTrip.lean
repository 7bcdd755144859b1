import UniqueId.Proofs.Uuid.Writing
import UniqueId.Uuid.Namespace

/-! Reading and writing the canonical text are inverse to each other, up to the case of letters. A
text is read as an identifier exactly if its lowercase form is the text of that identifier. -/
namespace UniqueId.Uuid
open UniqueId.Text

/-- Every character has an octet to itself. -/
def IsAscii (s : String) : Prop := ∀ c ∈ s.toList, c.toNat < 128

theorem octets_eq_flatMap (s : String) : octets s = s.toList.flatMap String.utf8EncodeChar := by
  rw [octets, String.toUTF8, ← String.utf8Encode_toList, List.utf8Encode,
    List.toList_data_toByteArray]

theorem utf8EncodeChar_of_lt {c : Char} (h : c.toNat < 128) :
    String.utf8EncodeChar c = [UInt8.ofNat c.toNat] := by
  have h' : c.val.toNat ≤ 127 := Nat.le_of_lt_succ h
  rw [String.utf8EncodeChar]
  exact if_pos h'

/-- The last octet of any other character is none of an ASCII character. -/
theorem exists_ge_utf8EncodeChar {c : Char} (h : 128 ≤ c.toNat) :
    ∃ b ∈ String.utf8EncodeChar c, 128 ≤ b.toNat := by
  have h' : ¬ c.val.toNat ≤ 127 := Nat.not_le_of_lt h
  refine ⟨UInt8.ofNat (c.val.toNat % 64 + 128), ?_, ?_⟩
  · simp only [String.utf8EncodeChar, if_neg h']
    split
    · simp
    · split <;> simp
  · rw [UInt8.toNat_ofNat']
    omega

theorem octets_of_isAscii {s : String} (h : IsAscii s) :
    octets s = s.toList.map fun c => UInt8.ofNat c.toNat := by
  rw [octets_eq_flatMap, List.map_eq_flatMap, List.flatMap_def, List.flatMap_def,
    List.map_congr_left fun c hc => utf8EncodeChar_of_lt (h c hc)]

theorem isAscii_of_octets {s : String} (h : ∀ b ∈ octets s, b.toNat < 128) : IsAscii s := by
  intro c hc
  refine Nat.lt_of_not_le fun wide => ?_
  obtain ⟨b, hb, ge⟩ := exists_ge_utf8EncodeChar wide
  have lt := h b (octets_eq_flatMap s ▸ List.mem_flatMap_of_mem hc hb)
  omega

theorem toList_toLower (s : String) : s.toLower.toList = s.toList.map Char.toLower :=
  String.toList_map

theorem map_lowercase_octets {s : String} (h : IsAscii s) :
    (octets s).map lowercase = s.toLower.toList := by
  rw [octets_of_isAscii h, List.map_map, toList_toLower]
  apply List.map_congr_left
  intro c hc
  have hn : (UInt8.ofNat c.toNat).toNat = c.toNat :=
    UInt8.toNat_ofNat_of_lt (Nat.lt_of_lt_of_le (h c hc) (by decide))
  rw [Function.comp_apply, lowercase, hn, Char.ofNat_toNat]

theorem toNat_lt_of_toLower {c : Char} (h : c.toLower.toNat < 128) : c.toNat < 128 := by
  by_cases upper : 'A'.val ≤ c.val ∧ c.val ≤ 'Z'.val
  · exact Nat.lt_of_le_of_lt upper.2 (by decide)
  · rwa [show c.toLower = c from dif_neg upper] at h

theorem FitsAt.lt {i : Nat} {b : UInt8} (h : FitsAt i b) : b.toNat < 128 := by
  by_cases hi : i ∈ hyphens
  · rw [(fitsAt_of_mem hi b).1 h]
    decide
  · have ascii : numerals.all (·.toNat < 128) = true := by decide
    have digit := List.all_eq_true.1 ascii _ ((fitsAt_of_not_mem hi b).1 h)
    have lt : (Char.ofNat b.toNat).toNat < 128 := toNat_lt_of_toLower (of_decide_eq_true digit)
    have valid : b.toNat.isValidChar := .inl (Nat.lt_of_lt_of_le b.toNat_lt (by decide))
    rw [Char.ofNat, dif_pos valid] at lt
    exact lt

theorem IsCanonical.isAscii {s : String} (h : IsCanonical (octets s)) : IsAscii s := by
  apply isAscii_of_octets
  intro b hb
  obtain ⟨k, hk, rfl⟩ := List.mem_iff_getElem.1 hb
  exact (h.fits k hk).lt

theorem toLower_encode (u : Uuid) : u.encode.toLower = u.encode := by
  rw [← String.toList_inj, toList_toLower, toList_encode, List.map_map]
  exact List.map_congr_left fun i _ => (toLower_cell _ i).1

theorem isAscii_of_toLower {s : String} {u : Uuid} (h : s.toLower = u.encode) : IsAscii s := by
  intro c hc
  have mem : c.toLower ∈ u.encode.toList := by
    rw [← h, toList_toLower]
    exact List.mem_map_of_mem hc
  rw [toList_encode] at mem
  obtain ⟨i, -, shown⟩ := List.mem_map.1 mem
  exact toNat_lt_of_toLower (shown ▸ cell_lt _ i)

theorem toLower_eq_encode_iff (s : String) (u : Uuid) :
    s.toLower = u.encode ↔
      IsCanonical (octets s) ∧ spelled (hexDigits (octets s)) = u.words.toNumber.toNat := by
  have shown (h : IsAscii s) : s.toLower = u.encode ↔
      IsCanonical (octets s) ∧ spelled (hexDigits (octets s)) = u.words.toNumber.toNat := by
    rw [← map_lowercase_eq_cells_iff, map_lowercase_octets h, ← toList_encode, String.toList_inj]
  constructor
  · intro h
    exact (shown (isAscii_of_toLower h)).1 h
  · intro h
    exact (shown h.1.isAscii).2 h

theorem ofWords_halves_eq_iff {n : Nat} (h : n < 1 <<< 128) (u : Uuid) :
    ofWords (halves n) = u ↔ n = u.words.toNumber.toNat := by
  have number : (halves n).toNumber.toNat = n := by
    rw [← ofNumber_ofNat, Words.toNumber_ofNumber, BitVec.toNat_ofNat]
    exact Nat.mod_eq_of_lt h
  constructor
  · rintro rfl
    rw [words_ofWords, number]
  · rintro rfl
    rw [← ofNumber_ofNat, BitVec.ofNat_toNat, BitVec.setWidth_eq, Words.ofNumber_toNumber,
      ofWords_words]

/-- A text is read as an identifier exactly if it is the text of that identifier, written in
letters of either case. -/
theorem parse_eq_ok_iff (s : String) (u : Uuid) : parse s = .ok u ↔ s.toLower = u.encode := by
  rw [toLower_eq_encode_iff, parse_eq]
  by_cases h : IsCanonical (octets s)
  · rw [if_pos h, Except.ok.injEq, ofWords_halves_eq_iff h.spelled_lt]
    exact (and_iff_right h).symm
  · rw [if_neg h]
    constructor
    · intro refused
      cases refused
    · intro shown
      exact absurd shown.1 h

theorem parse_encode (u : Uuid) : parse u.encode = .ok u :=
  (parse_eq_ok_iff _ u).2 u.toLower_encode

theorem encode_injective : Function.Injective encode := by
  intro u v h
  have hu := parse_encode u
  rw [h, parse_encode] at hu
  exact (Except.ok.inj hu).symm

/-- A text with the letters at some positions in upper case and all others in lower case. -/
def recase (upper : Nat → Bool) (s : String) : String :=
  String.ofList (s.toList.mapIdx fun i c => if upper i then c.toUpper else c.toLower)

theorem toLower_recase_encode (upper : Nat → Bool) (u : Uuid) :
    (recase upper u.encode).toLower = u.encode := by
  rw [← String.toList_inj, toList_toLower, recase, String.toList_ofList]
  apply List.ext_getElem
  · simp
  · intro i hi hj
    simp only [List.getElem_map, List.getElem_mapIdx, toList_encode]
    cases upper i with
    | false => rw [if_neg Bool.false_ne_true, (toLower_cell _ _).1, (toLower_cell _ _).1]
    | true => rw [if_pos rfl, (toLower_cell _ _).2]

/-- The text of an identifier is read back as that identifier, in whatever case its letters are
written, and a text that is read is written back in lower case. So no two identifiers have the same
text, and texts of the same identifier differ in case only. -/
theorem text_round_trip :
    (∀ (w : Words) (upper : Nat → Bool),
      parse (recase upper (ofWords w).encode) = .ok (ofWords w)) ∧
    (∀ (s : String) (u : Uuid), parse s = .ok u → u.encode = s.toLower) ∧
    Function.Injective (fun w => (ofWords w).encode) ∧
    ∀ (s t : String) (u v : Uuid), parse s = .ok u → parse t = .ok v →
      (u = v ↔ s.toLower = t.toLower) := by
  refine ⟨?recased, fun s u h => ((parse_eq_ok_iff s u).1 h).symm, ?injective, ?same⟩
  case recased =>
    intro w upper
    rw [parse_eq_ok_iff, toLower_recase_encode]
  case injective =>
    intro v w h
    rw [← words_ofWords v, encode_injective h, words_ofWords]
  case same =>
    intro s t u v hs ht
    rw [(parse_eq_ok_iff s u).1 hs, (parse_eq_ok_iff t v).1 ht]
    exact encode_injective.eq_iff.symm

/-- Two texts of one namespace, and a text of another. -/
theorem text_round_trip_namespaces :
    (timeBased Namespace.dns).encode = "6BA7B810-9dad-11D1-80b4-00c04FD430C8".toLower ∧
    (timeBased Namespace.dns = timeBased Namespace.dns ↔
      "6BA7B810-9dad-11D1-80b4-00c04FD430C8".toLower =
        "6ba7b810-9DAD-11d1-80B4-00C04fd430c8".toLower) ∧
    (timeBased Namespace.dns = timeBased Namespace.url ↔
      "6BA7B810-9dad-11D1-80b4-00c04FD430C8".toLower =
        "6ba7b811-9dad-11d1-80b4-00c04fd430c8".toLower) := by
  have mixed : parse "6BA7B810-9dad-11D1-80b4-00c04FD430C8" = .ok (timeBased Namespace.dns) := by
    rw [parse_eq_ok_iff, toLower_eq_encode_iff]
    decide
  have other : parse "6ba7b810-9DAD-11d1-80B4-00C04fd430c8" = .ok (timeBased Namespace.dns) := by
    rw [parse_eq_ok_iff, toLower_eq_encode_iff]
    decide
  have url : parse "6ba7b811-9dad-11d1-80b4-00c04fd430c8" = .ok (timeBased Namespace.url) := by
    rw [parse_eq_ok_iff, toLower_eq_encode_iff]
    decide
  obtain ⟨-, lowered, -, same⟩ := text_round_trip
  exact ⟨lowered _ _ mixed, same _ _ _ _ mixed other, same _ _ _ _ mixed url⟩

end UniqueId.Uuid
