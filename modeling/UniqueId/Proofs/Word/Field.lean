import UniqueId.Word.Field

/-! The laws of reading and writing, for any non-empty set of bits. What a write gives is determined
by what is then read and by the bits outside the field, so the last write counts, and writing what
was read changes nothing. Two fields are independent just if they share no bit. -/
namespace UniqueId
open Word

theorem IsLowestBit.le {mask : UInt64} {k i : Nat} (h : IsLowestBit mask k)
    (set : bit mask i = true) : k ≤ i := by
  refine Nat.le_of_not_lt fun below => ?_
  rw [h.2 i below] at set
  contradiction

/-- The lowest bit stands above the zeros at the end of the word. -/
theorem isLowestBit_ctz {mask : UInt64} (h : mask ≠ 0) :
    IsLowestBit mask mask.toBitVec.ctz.toNat :=
  ⟨BitVec.getLsbD_true_ctz_of_ne_zero fun zero => h (UInt64.toBitVec_inj.1 zero),
    fun _ below => BitVec.getLsbD_false_of_lt_ctz below⟩

theorem isLowestBit_iff (mask : UInt64) (k : Nat) :
    IsLowestBit mask k ↔ mask ≠ 0 ∧ k = mask.toBitVec.ctz.toNat := by
  constructor
  · intro lowest
    have ne : mask ≠ 0 := by
      rintro rfl
      simp [IsLowestBit] at lowest
    have last := isLowestBit_ctz ne
    exact ⟨ne, Nat.le_antisymm (lowest.le last.1) (last.le lowest.1)⟩
  · rintro ⟨ne, rfl⟩
    exact isLowestBit_ctz ne

namespace Field

theorem ofMask?_eq_some_iff {mask offset : UInt64} {f : Field} :
    ofMask? mask offset = some f ↔ f.mask = mask ∧ f.offset = offset := by
  constructor
  · intro h
    rw [ofMask?] at h
    split at h
    case isTrue =>
      cases h
      exact ⟨rfl, rfl⟩
    case isFalse => contradiction
  · rintro ⟨rfl, rfl⟩
    exact dif_pos f.lowest

/-- A set of bits is a field at one offset, provided that it is not empty. -/
theorem exists_ofMask?_iff (mask offset : UInt64) :
    (∃ f, ofMask? mask offset = some f) ↔
      mask ≠ 0 ∧ offset.toNat = mask.toBitVec.ctz.toNat := by
  rw [← isLowestBit_iff]
  constructor
  · rintro ⟨f, h⟩
    obtain ⟨rfl, rfl⟩ := ofMask?_eq_some_iff.1 h
    exact f.lowest
  · intro lowest
    exact ⟨⟨mask, offset, lowest⟩, ofMask?_eq_some_iff.2 ⟨rfl, rfl⟩⟩

example : (ofMask? 0xff00 7).isNone := by decide

/-- Writing leaves the bits outside the field alone. -/
theorem write_and_not_mask (f : Field) (w v : UInt64) :
    f.write w v &&& ~~~f.mask = w &&& ~~~f.mask := by
  apply ext_bit
  intro i hi
  cases h : bit f.mask i <;> simp [bit_not, h]

/-- Under one value words are told apart by the bits outside the field. -/
theorem write_eq_write_iff (f : Field) (w x v : UInt64) :
    f.write w v = f.write x v ↔ w &&& ~~~f.mask = x &&& ~~~f.mask := by
  constructor
  · intro h
    rw [← f.write_and_not_mask w v, h, f.write_and_not_mask]
  · intro h
    rw [write, write, h]

/-- Writing leaves a word as it is just where the field has the value already. -/
theorem write_eq_self_iff (f : Field) (w v : UInt64) :
    f.write w v = w ↔ f.read w = v &&& f.limit := by
  constructor
  · intro h
    rw [← f.read_write w v, h]
  · intro h
    apply ext_bit
    intro i _
    rw [bit_write]
    split
    case isTrue inside =>
      have same := congrArg (bit · (i - f.offset.toNat)) h
      simpa [Nat.add_sub_of_le (f.lowest.le inside), inside] using same.symm
    case isFalse => rfl

/-- A write gives the only word that reads as what was written, as far as the field has room for it,
and agrees outside the field with the word before. -/
theorem eq_write_iff (f : Field) (w v x : UInt64) :
    x = f.write w v ↔ f.read x = v &&& f.limit ∧ x &&& ~~~f.mask = w &&& ~~~f.mask := by
  constructor
  · rintro rfl
    exact ⟨f.read_write w v, f.write_and_not_mask w v⟩
  · rintro ⟨inside, outside⟩
    calc x = f.write x v := ((f.write_eq_self_iff x v).2 inside).symm
      _ = f.write w v := (f.write_eq_write_iff x w v).2 outside

/-- What was written before is lost. -/
@[simp] theorem write_write (f : Field) (w u v : UInt64) :
    f.write (f.write w u) v = f.write w v :=
  (f.write_eq_write_iff _ w v).2 (f.write_and_not_mask w u)

theorem read_and_limit (f : Field) (w : UInt64) : f.read w &&& f.limit = f.read w := by
  apply ext_bit
  intro i _
  cases h : bit f.mask (f.offset.toNat + i) <;> simp [h]

/-- Writing what was read changes nothing. -/
@[simp] theorem write_read (f : Field) (w : UInt64) : f.write w (f.read w) = w :=
  (f.write_eq_self_iff w (f.read w)).2 (f.read_and_limit w).symm

/-- The bits of a value that the field has no room for do not matter. -/
@[simp] theorem write_and_limit (f : Field) (w v : UInt64) :
    f.write w (v &&& f.limit) = f.write w v := by
  rw [eq_write_iff, read_write, UInt64.and_assoc, UInt64.and_self]
  exact ⟨rfl, f.write_and_not_mask w _⟩

@[simp] theorem read_zero (f : Field) : f.read 0 = 0 := by
  apply ext_bit
  simp

/-- Under all bits of the field, an empty word becomes the mask. -/
theorem write_zero_limit (f : Field) : f.write 0 f.limit = f.mask := by
  apply ext_bit
  intro i _
  rw [bit_write]
  cases inside : bit f.mask i with
  | false => simp
  | true => simp [Nat.add_sub_of_le (f.lowest.le inside), inside]

section Pairs
variable {f g : Field}

theorem Disjoint.bit_mask (h : f.Disjoint g) {i : Nat} (inside : bit f.mask i = true) :
    bit g.mask i = false := by
  have both := congrArg (bit · i) (show f.mask &&& g.mask = 0 from h)
  simpa [inside] using both

theorem disjoint_iff_read_mask : f.Disjoint g ↔ g.read f.mask = 0 := by
  constructor
  · intro h
    rw [← f.write_zero_limit, read_write_of_disjoint h, read_zero]
  · intro h
    apply ext_bit
    intro i _
    rw [bit_and, bit_zero]
    cases inside : bit g.mask i with
    | false => rw [Bool.and_false]
    | true =>
      have bits := congrArg (bit · (i - g.offset.toNat)) h
      simpa [Nat.add_sub_of_le (g.lowest.le inside), inside] using bits

/-- The order of two writes does not matter just if the fields share no bit. -/
theorem disjoint_iff_write_comm :
    f.Disjoint g ↔ ∀ w u v, g.write (f.write w u) v = f.write (g.write w v) u := by
  constructor
  · intro h w u v
    apply ext_bit
    intro i _
    simp only [bit_write]
    cases inside : bit f.mask i with
    | false => rfl
    | true => simp [h.bit_mask inside]
  · intro h
    -- Clearing the one field undoes filling the other, unless they are apart.
    have cleared : g.write 0 0 = 0 := by
      rw [write_eq_self_iff, read_zero, UInt64.zero_and]
    have filled := h 0 f.limit 0
    rw [cleared, write_zero_limit, write_eq_self_iff, UInt64.zero_and] at filled
    exact disjoint_iff_read_mask.2 filled

/-- What is written to one field is not seen in another just if the two share no bit. -/
theorem disjoint_iff_read_write : f.Disjoint g ↔ ∀ w v, g.read (f.write w v) = g.read w := by
  constructor
  · exact read_write_of_disjoint
  · intro h
    have filled := h 0 f.limit
    rw [write_zero_limit, read_zero] at filled
    exact disjoint_iff_read_mask.2 filled

end Pairs

/-- Any non-empty set of bits is a field, at the offset of its lowest bit and at no other. What was
written is read back, less the bits that the field has no room for; writing what was read changes
nothing; the last write counts. No bit outside the field is changed, and only the bits that fit
matter. The order of writes to two fields does not matter, and neither write is seen in the other
field, just if the two share no bit. -/
theorem read_write_lawful :
    (∀ mask offset, (∃ f, ofMask? mask offset = some f) ↔
      mask ≠ 0 ∧ offset.toNat = mask.toBitVec.ctz.toNat) ∧
    ∀ mask offset f, ofMask? mask offset = some f →
      (∀ w v, f.read (f.write w v) = v &&& (mask >>> offset)) ∧
      (∀ w, f.write w (f.read w) = w) ∧
      (∀ w u v, f.write (f.write w u) v = f.write w v) ∧
      (∀ w v, f.write w v &&& ~~~mask = w &&& ~~~mask) ∧
      (∀ w v, f.write w (v &&& (mask >>> offset)) = f.write w v) ∧
      ∀ mask' offset' g, ofMask? mask' offset' = some g →
        (mask &&& mask' = 0 ↔ ∀ w u v, g.write (f.write w u) v = f.write (g.write w v) u) ∧
        (mask &&& mask' = 0 ↔ ∀ w v, g.read (f.write w v) = g.read w) ∧
        (mask &&& mask' = 0 ↔ ∀ w v, f.read (g.write w v) = f.read w) := by
  refine ⟨exists_ofMask?_iff, ?_⟩
  intro mask offset f hf
  obtain ⟨rfl, rfl⟩ := ofMask?_eq_some_iff.1 hf
  refine ⟨f.read_write, f.write_read, f.write_write, f.write_and_not_mask, f.write_and_limit, ?_⟩
  intro mask' offset' g hg
  obtain ⟨rfl, rfl⟩ := ofMask?_eq_some_iff.1 hg
  have symm : f.mask &&& g.mask = 0 ↔ g.Disjoint f := by rw [Disjoint, UInt64.and_comm]
  exact ⟨disjoint_iff_write_comm, disjoint_iff_read_write, symm.trans disjoint_iff_read_write⟩

/-- The highest bit alone, whose offset leaves room for one bit of a value, and every second bit of
the word, which the highest is not among. -/
theorem read_write_lawful_every_second :
    ∃ f g, ofMask? 0x8000000000000000 63 = some f ∧ ofMask? 0x5555555555555555 0 = some g ∧
      (∀ w v, f.read (f.write w v) = v &&& 1) ∧
      (∀ w, g.write w (g.read w) = w) ∧
      (∀ w u v, g.write (f.write w u) v = f.write (g.write w v) u) ∧
      (∀ w v, g.read (f.write w v) = g.read w) := by
  obtain ⟨accepted, laws⟩ := read_write_lawful
  obtain ⟨f, hf⟩ := (accepted 0x8000000000000000 63).2 ((isLowestBit_iff _ _).1 (by decide))
  obtain ⟨g, hg⟩ := (accepted 0x5555555555555555 0).2 ((isLowestBit_iff _ _).1 (by decide))
  obtain ⟨readBack, -, -, -, -, pairs⟩ := laws _ _ f hf
  obtain ⟨-, restored, -⟩ := laws _ _ g hg
  obtain ⟨commute, unseen, -⟩ := pairs _ _ g hg
  exact ⟨f, g, hf, hg, readBack, restored, commute.1 (by decide), unseen.1 (by decide)⟩

end Field
end UniqueId
