import UniqueId.Proofs.Text.Hex
import UniqueId.Proofs.Uuid.Groups
import UniqueId.Proofs.Uuid.TextOrder
import UniqueId.Proofs.Words.Stamps
import UniqueId.RandomBased

/-! Random identifiers that carry a second. The second takes the upper half of the high word and
nothing else, so it comes first in the order and in the text, and all other bits are those of the
random identifier that the same draws give. -/
namespace UniqueId
open Layout Text

namespace Uuid

/-- The text begins with the digits of the upper half of the high word. -/
theorem take_encode (u : Uuid) :
    u.encode.toList.take 8 = Hex.digits 8 (u.words.high.toNat >>> 32) := by
  rw [toList_encode_words, List.append_assoc, List.append_assoc, List.append_assoc]
  exact List.take_left' (Hex.length_digits 8 _)

end Uuid

namespace RandomBased

theorem version_randomBased (v : RandomBased) : (Uuid.randomBased v).version = 4 := v.version_eq

@[simp] theorem draw_cons (a b : UInt64) (rest : Draws) :
    draw (a :: b :: rest) = (some (ofWords ⟨a, b⟩), rest) := rfl

@[simp] theorem drawAt_cons (s : UInt32) (a b : UInt64) (rest : Draws) :
    drawAt s (a :: b :: rest) = (some ((ofWords ⟨a, b⟩).withSeconds s), rest) := rfl

theorem toNat_high_withSeconds (v : RandomBased) (s : UInt32) :
    (v.withSeconds s).high.toNat = (1 <<< 32) * s.toNat + v.high.toNat % (1 <<< 32) := by
  rw [← UInt32.toNat_toUInt64 s]
  exact HighWord.timeLow_spans.toNat_write v.high s.toUInt64 v.high.toNat_lt s.toNat_lt

@[simp] theorem low_withSeconds (v : RandomBased) (s : UInt32) : (v.withSeconds s).low = v.low := rfl

@[simp] theorem lower_high_withSeconds (v : RandomBased) (s : UInt32) :
    (v.withSeconds s).high.toUInt32 = v.high.toUInt32 := by
  apply UInt32.toNat_inj.1
  rw [UInt64.toNat_toUInt32, UInt64.toNat_toUInt32, toNat_high_withSeconds]
  exact (Nat.mul_add_mod ..).trans (Nat.mod_mod ..)

theorem upper_high_withSeconds (v : RandomBased) (s : UInt32) :
    (v.withSeconds s).high.toNat >>> 32 = s.toNat := by
  rw [toNat_high_withSeconds, Nat.shiftRight_eq_div_pow, Nat.one_shiftLeft]
  omega

@[simp] theorem posixSeconds_withSeconds (v : RandomBased) (s : UInt32) :
    (v.withSeconds s).posixSeconds = s := by
  apply UInt32.toNat_inj.1
  rw [posixSeconds, UInt64.toNat_toUInt32, HighWord.timeLow_spans.toNat_read,
    upper_high_withSeconds, Nat.one_shiftLeft, Nat.mod_mod]
  exact Nat.mod_eq_of_lt s.toNat_lt

theorem take_encode_withSeconds (v : RandomBased) (s : UInt32) :
    (Uuid.randomBased (v.withSeconds s)).encode.toList.take 8 =
      (Nat.toDigits 16 s.toNat).leftpad 8 '0' := by
  rw [← Hex.digits_eq_leftpad 7 s.toNat_lt, Uuid.take_encode]
  exact congrArg (Hex.digits 8) (v.upper_high_withSeconds s)

/-- The seconds are compared first, then what is left of the high words, then the low words. -/
theorem compare_withSeconds (v w : RandomBased) (s t : UInt32) :
    compare (Uuid.randomBased (v.withSeconds s)) (.randomBased (w.withSeconds t)) =
      (compare s t).then
        ((compare v.high.toUInt32 w.high.toUInt32).then (compare v.low w.low)) := by
  have lt (v : RandomBased) : v.high.toNat % (1 <<< 32) < 1 <<< 32 := Nat.mod_lt _ (by decide)
  have words : compare (Uuid.randomBased (v.withSeconds s)) (.randomBased (w.withSeconds t)) =
      (compare (v.withSeconds s).high (w.withSeconds t).high).then (compare v.low w.low) :=
    Uuid.compare_of_version_eq (by rw [version_randomBased]; decide)
      ((version_randomBased _).trans (version_randomBased _).symm)
  rw [words, UInt64.compare_eq_toNat_compare_toNat, toNat_high_withSeconds, toNat_high_withSeconds,
    compare_mul_add (lt v) (lt w), Ordering.then_assoc, UInt32.compare_eq_toNat_compare_toNat,
    UInt32.compare_eq_toNat_compare_toNat, UInt64.toNat_toUInt32, UInt64.toNat_toUInt32]
  rfl

/-- Two draws give an identifier for any second. Such identifiers are ordered by their seconds, and
within a second by what the draws put into the lower half of the high word and into the low word.
The second is read back and is what the text begins with, in eight digits. All other bits are those
of the random identifier that the same draws give, so version and variant are, too. -/
theorem drawAt_by_second (s t : UInt32) (a b c d : UInt64) (rest others : Draws) :
    ∃ u v w, drawAt s (a :: b :: rest) = (some u, rest) ∧
      drawAt t (c :: d :: others) = (some v, others) ∧ draw (a :: b :: rest) = (some w, rest) ∧
      (s < t → compare (Uuid.randomBased u) (.randomBased v) = .lt) ∧
      (s = t → compare (Uuid.randomBased u) (.randomBased v) =
        (compare u.high.toUInt32 v.high.toUInt32).then (compare u.low v.low)) ∧
      u.posixSeconds = s ∧
      (Uuid.randomBased u).encode.toList.take 8 = (Nat.toDigits 16 s.toNat).leftpad 8 '0' ∧
      u.high.toUInt32 = w.high.toUInt32 ∧ u.low = w.low ∧
      (u.high.toNat >>> 12) % (1 <<< 4) = 4 ∧ u.low.toNat >>> 62 = 0b10 ∧
      (Uuid.randomBased u).version = 4 ∧ (Uuid.randomBased u).variant = .standard := by
  let w := ofWords ⟨a, b⟩
  have ordered := compare_withSeconds w (ofWords ⟨c, d⟩) s t
  refine ⟨w.withSeconds s, (ofWords ⟨c, d⟩).withSeconds t, w, drawAt_cons s a b rest,
    drawAt_cons t c d others, draw_cons a b rest, ?later, ?same, posixSeconds_withSeconds w s,
    take_encode_withSeconds w s, lower_high_withSeconds w s, low_withSeconds w s, ?version,
    Words.toNat_low_stamp 4 ⟨a, b⟩, version_randomBased _, Words.variant_stamp 4 ⟨a, b⟩⟩
  case later =>
    intro lt
    rw [ordered, Std.compare_eq_lt.2 lt]
    rfl
  case same =>
    rintro rfl
    rw [ordered, Std.compare_self, lower_high_withSeconds, lower_high_withSeconds,
      low_withSeconds, low_withSeconds]
    rfl
  case version =>
    rw [← Words.toNat_version, (w.withSeconds s).version_eq]
    rfl

/-- Draws that stand in the opposite order of the seconds, and draws that differ only in what the
second leaves of the high word. -/
theorem drawAt_by_second_against_draws :
    (∃ u v, (drawAt 0x7fffffff [0xffffffffffffffff, 0xffffffffffffffff]).1 = some u ∧
      (drawAt 0x80000000 [0, 0]).1 = some v ∧
      compare (Uuid.randomBased u) (.randomBased v) = .lt) ∧
    ∃ u v, (drawAt 7 [0xffffffff00000000, 1]).1 = some u ∧ (drawAt 7 [1, 0]).1 = some v ∧
      compare (Uuid.randomBased u) (.randomBased v) =
        (compare u.high.toUInt32 v.high.toUInt32).then (compare u.low v.low) := by
  constructor
  · obtain ⟨u, v, -, hu, hv, -, later, -⟩ := drawAt_by_second 0x7fffffff 0x80000000
      0xffffffffffffffff 0xffffffffffffffff 0 0 [] []
    exact ⟨u, v, congrArg Prod.fst hu, congrArg Prod.fst hv, later (by decide)⟩
  · obtain ⟨u, v, -, hu, hv, -, -, same, -⟩ :=
      drawAt_by_second 7 7 0xffffffff00000000 1 1 0 [] []
    exact ⟨u, v, congrArg Prod.fst hu, congrArg Prod.fst hv, same rfl⟩

end RandomBased
end UniqueId
