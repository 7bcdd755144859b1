import UniqueId.Proofs.TimeBased.FieldOrder
import UniqueId.Proofs.Uuid.Groups
import UniqueId.Proofs.Words.Stamps
import UniqueId.Uuid.Namespace

/-! The parts that are read from a time-based identifier. They come from its timestamp and its clock
sequence, which were put together from the words before, while the text comes from the words as
they are. Both say the same about identifiers of every variant, and nothing is lost: besides the
parts there are only the version, which is known, and the two variant bits. -/
namespace UniqueId
open Layout Text

namespace TimeBased

/-! A part of the timestamp is what one field of the high word holds. -/

theorem timeLow_eq (v : TimeBased) : v.timeLow = HighWord.timeLow.read v.high := by
  apply UInt64.toNat_inj.1
  rw [timeLow, timestamp, Field.read_write_of_disjoint (by decide),
    Field.read_write_of_disjoint (by decide), HighWord.timeLow_spans.toNat_read,
    HighWord.timeLow_spans.toNat_read_read Timestamp.low_spans (by decide)]

theorem timeMid_eq (v : TimeBased) : v.timeMid = HighWord.timeMid.read v.high := by
  rw [timeMid, timestamp, Field.read_write_of_disjoint (by decide)]
  refine Timestamp.mid_spans.read_write_of_lt _ ?_
  rw [HighWord.timeMid_spans.toNat_read]
  exact Nat.mod_lt _ (by decide)

theorem timeHigh_eq (v : TimeBased) : v.timeHigh = HighWord.timeHigh.read v.high := by
  refine Timestamp.high_spans.read_write_of_lt _ ?_
  rw [HighWord.timeHigh_spans.toNat_read]
  exact Nat.mod_lt _ (by decide)

theorem toNat_timeLow (v : TimeBased) : v.timeLow.toNat = v.high.toNat >>> 32 := by
  have fits := v.high.toNat_lt
  rw [timeLow_eq, HighWord.timeLow_spans.toNat_read, Nat.shiftRight_eq_div_pow, Nat.one_shiftLeft]
  omega

theorem toNat_timeMid (v : TimeBased) : v.timeMid.toNat = (v.high.toNat >>> 16) % (1 <<< 16) := by
  rw [timeMid_eq, HighWord.timeMid_spans.toNat_read]

theorem toNat_timeHigh (v : TimeBased) : v.timeHigh.toNat = v.high.toNat % (1 <<< 12) := by
  rw [timeHigh_eq, HighWord.timeHigh_spans.toNat_read, Nat.shiftRight_zero]

theorem toNat_clockSequenceHigh (v : TimeBased) :
    v.clockSequenceHigh.toNat = (v.low.toNat >>> 56) % (1 <<< 6) := by
  rw [clockSequenceHigh, toUInt64_clockSequence,
    LowWord.clockSequence_spans.toNat_read_read ClockSequence.high_spans (by decide)]

theorem toNat_clockSequenceLow (v : TimeBased) :
    v.clockSequenceLow.toNat = (v.low.toNat >>> 48) % (1 <<< 8) := by
  rw [clockSequenceLow, toUInt64_clockSequence,
    LowWord.clockSequence_spans.toNat_read_read ClockSequence.low_spans (by decide)]

theorem toNat_node (v : TimeBased) : v.node.toNat = v.low.toNat % (1 <<< 48) := by
  rw [node, LowWord.node_spans.toNat_read, Nat.shiftRight_zero]

/-- No part has more bits than there is room for where it stands. -/
structure PartsFit (v : TimeBased) : Prop where
  timeLow : v.timeLow.toNat < 1 <<< 32
  timeMid : v.timeMid.toNat < 1 <<< 16
  timeHigh : v.timeHigh.toNat < 1 <<< 12
  clockSequenceHigh : v.clockSequenceHigh.toNat < 1 <<< 6
  clockSequenceLow : v.clockSequenceLow.toNat < 1 <<< 8
  node : v.node.toNat < 1 <<< 48

theorem partsFit (v : TimeBased) : v.PartsFit where
  timeLow := by
    rw [timeLow_eq, HighWord.timeLow_spans.toNat_read]
    exact Nat.mod_lt _ (by decide)
  timeMid := by
    rw [toNat_timeMid]
    exact Nat.mod_lt _ (by decide)
  timeHigh := by
    rw [toNat_timeHigh]
    exact Nat.mod_lt _ (by decide)
  clockSequenceHigh := by
    rw [toNat_clockSequenceHigh]
    exact Nat.mod_lt _ (by decide)
  clockSequenceLow := by
    rw [toNat_clockSequenceLow]
    exact Nat.mod_lt _ (by decide)
  node := v.toNat_node_lt

theorem toNat_timestamp (v : TimeBased) :
    v.timestamp.toNat =
      (1 <<< 48) * v.timeHigh.toNat + (1 <<< 32) * v.timeMid.toNat + v.timeLow.toNat := by
  have fits := v.partsFit
  -- the parts are written from the lowest on, each above what was written before it
  have lower := Timestamp.mid_spans.toNat_write v.timeLow v.timeMid
    (Nat.lt_trans fits.timeLow (by decide)) fits.timeMid
  have below : (Timestamp.mid.write v.timeLow v.timeMid).toNat < 1 <<< 48 := by
    have low := fits.timeLow
    have mid := fits.timeMid
    rw [lower]
    simp only [Nat.one_shiftLeft] at *
    omega
  have all := Timestamp.high_spans.toNat_write _ v.timeHigh
    (Nat.lt_trans below (by decide)) fits.timeHigh
  rw [lower, Nat.mod_eq_of_lt fits.timeLow] at below
  rw [lower, Nat.mod_eq_of_lt fits.timeLow, Nat.mod_eq_of_lt below, ← Nat.add_assoc] at all
  rw [timestamp, ← timeLow_eq, ← timeMid_eq, ← timeHigh_eq, all]

theorem toNat_clockSequence (v : TimeBased) :
    v.clockSequence.toNat =
      (1 <<< 8) * v.clockSequenceHigh.toNat + v.clockSequenceLow.toNat := by
  rw [← UInt16.toNat_toUInt64, toUInt64_clockSequence, LowWord.clockSequence_spans.toNat_read,
    toNat_clockSequenceHigh, toNat_clockSequenceLow]
  simp only [Nat.shiftRight_eq_div_pow, Nat.one_shiftLeft]
  omega

/-- The high word is made of the parts of the timestamp and the version. -/
theorem toNat_high (v : TimeBased) :
    v.high.toNat = (1 <<< 32) * v.timeLow.toNat + (1 <<< 16) * v.timeMid.toNat + (1 <<< 12) +
      v.timeHigh.toNat := by
  have version : (v.high.toNat >>> 12) % (1 <<< 4) = 1 := by
    rw [← Words.toNat_version, v.version_eq]
    rfl
  rw [toNat_timeLow, toNat_timeMid, toNat_timeHigh]
  simp only [Nat.shiftRight_eq_div_pow, Nat.one_shiftLeft] at *
  omega

/-- The low word is made of the variant bits, the parts of the clock sequence and the node. -/
theorem toNat_low_parts (v : TimeBased) :
    v.low.toNat = (1 <<< 56) * ((1 <<< 6) * (v.low.toNat >>> 62) + v.clockSequenceHigh.toNat) +
      (1 <<< 48) * v.clockSequenceLow.toNat + v.node.toNat := by
  have fits := v.low.toNat_lt
  rw [toNat_clockSequenceHigh, toNat_clockSequenceLow, toNat_node]
  simp only [Nat.shiftRight_eq_div_pow, Nat.one_shiftLeft] at *
  omega

/-- Two identifiers of which every part is the same, and the two variant bits are, too. -/
structure SameParts (v w : TimeBased) : Prop where
  timeLow : v.timeLow = w.timeLow
  timeMid : v.timeMid = w.timeMid
  timeHigh : v.timeHigh = w.timeHigh
  clockSequenceHigh : v.clockSequenceHigh = w.clockSequenceHigh
  clockSequenceLow : v.clockSequenceLow = w.clockSequenceLow
  node : v.node = w.node
  variantBits : v.low.toNat >>> 62 = w.low.toNat >>> 62

theorem toWords_injective : Function.Injective toWords := by
  rintro ⟨v, -⟩ ⟨w, -⟩ rfl
  rfl

theorem eq_iff_sameParts (v w : TimeBased) : v = w ↔ v.SameParts w := by
  constructor
  · rintro rfl
    exact ⟨rfl, rfl, rfl, rfl, rfl, rfl, rfl⟩
  · intro same
    apply toWords_injective
    apply Words.ext <;> apply UInt64.toNat_inj.1
    · rw [toNat_high, toNat_high w, same.timeLow, same.timeMid, same.timeHigh]
    · rw [toNat_low_parts, toNat_low_parts w, same.clockSequenceHigh, same.clockSequenceLow,
        same.node, same.variantBits]

/-- The third group begins with the version. -/
theorem digits_high (v : TimeBased) :
    Hex.digits 4 v.high.toNat = '1' :: Hex.digits 3 v.timeHigh.toNat := by
  have version : Hex.digits 1 (v.high.toNat >>> (4 * 3)) = Hex.digits 1 1 := by
    apply Hex.digits_congr
    rw [toNat_high]
    have fits := v.partsFit.timeHigh
    simp only [Nat.shiftRight_eq_div_pow, Nat.one_shiftLeft] at *
    omega
  have rest : Hex.digits 3 v.high.toNat = Hex.digits 3 v.timeHigh.toNat := by
    apply Hex.digits_congr
    rw [toNat_timeHigh]
    exact (Nat.mod_mod _ _).symm
  rw [Hex.digits_append 1 3, version, rest]
  rfl

/-- The fourth group is an octet with the variant bits and the lower octet of the clock sequence. -/
theorem digits_low (v : TimeBased) :
    Hex.digits 4 (v.low.toNat >>> 48) =
      Hex.digits 2 ((1 <<< 6) * (v.low.toNat >>> 62) + v.clockSequenceHigh.toNat) ++
        Hex.digits 2 v.clockSequenceLow.toNat := by
  have upper : v.low.toNat >>> 48 >>> (4 * 2) =
      (1 <<< 6) * (v.low.toNat >>> 62) + v.clockSequenceHigh.toNat := by
    rw [toNat_clockSequenceHigh]
    simp only [Nat.shiftRight_eq_div_pow, Nat.one_shiftLeft]
    omega
  have lower : Hex.digits 2 (v.low.toNat >>> 48) = Hex.digits 2 v.clockSequenceLow.toNat := by
    apply Hex.digits_congr
    rw [toNat_clockSequenceLow]
    exact (Nat.mod_mod _ _).symm
  rw [Hex.digits_append 2 2, upper, lower]

theorem toList_encode_digits (v : TimeBased) :
    (Uuid.timeBased v).encode.toList =
      Hex.digits 8 v.timeLow.toNat ++ '-' :: Hex.digits 4 v.timeMid.toNat ++
        '-' :: '1' :: Hex.digits 3 v.timeHigh.toNat ++
        '-' :: (Hex.digits 2 ((1 <<< 6) * (v.low.toNat >>> 62) + v.clockSequenceHigh.toNat) ++
          Hex.digits 2 v.clockSequenceLow.toNat) ++
        '-' :: Hex.digits 12 v.node.toNat := by
  have second : Hex.digits 4 (v.high.toNat >>> 16) = Hex.digits 4 v.timeMid.toNat := by
    apply Hex.digits_congr
    rw [toNat_timeMid]
    exact (Nat.mod_mod _ _).symm
  have last : Hex.digits 12 v.low.toNat = Hex.digits 12 v.node.toNat := by
    apply Hex.digits_congr
    rw [toNat_node]
    exact (Nat.mod_mod _ _).symm
  rw [toNat_timeLow, ← second, ← last, ← digits_high, ← digits_low]
  exact (Uuid.timeBased v).toList_encode_words

/-- The text of an identifier is made of its parts: the parts of the timestamp with the lowest one
first, the version before the highest one, the variant bits before the clock sequence, and the node.
Each part fits its place. Timestamp and clock sequence are made of the same parts with the highest
one first, and identifiers with the same parts and the same variant bits are the same. -/
theorem parts_agree :
    (∀ v : TimeBased,
      (Uuid.timeBased v).encode.toList =
        Hex.numeral 8 v.timeLow.toNat ++ '-' :: Hex.numeral 4 v.timeMid.toNat ++
          '-' :: '1' :: Hex.numeral 3 v.timeHigh.toNat ++
          '-' :: (Hex.numeral 2 ((1 <<< 6) * (v.low.toNat >>> 62) + v.clockSequenceHigh.toNat) ++
            Hex.numeral 2 v.clockSequenceLow.toNat) ++
          '-' :: Hex.numeral 12 v.node.toNat ∧
      v.PartsFit ∧
      v.timestamp.toNat =
        (1 <<< 48) * v.timeHigh.toNat + (1 <<< 32) * v.timeMid.toNat + v.timeLow.toNat ∧
      v.clockSequence.toNat =
        (1 <<< 8) * v.clockSequenceHigh.toNat + v.clockSequenceLow.toNat) ∧
    ∀ v w : TimeBased, v = w ↔ v.SameParts w := by
  refine ⟨fun v => ?_, eq_iff_sameParts⟩
  have fits := v.partsFit
  have octet : (1 <<< 6) * (v.low.toNat >>> 62) + v.clockSequenceHigh.toNat < 1 <<< 8 := by
    have high := fits.clockSequenceHigh
    have word := v.low.toNat_lt
    simp only [Nat.shiftRight_eq_div_pow, Nat.one_shiftLeft] at *
    omega
  refine ⟨?text, fits, v.toNat_timestamp, v.toNat_clockSequence⟩
  rw [toList_encode_digits, Hex.digits_eq_leftpad 7 fits.timeLow,
    Hex.digits_eq_leftpad 3 fits.timeMid, Hex.digits_eq_leftpad 2 fits.timeHigh,
    Hex.digits_eq_leftpad 1 octet, Hex.digits_eq_leftpad 1 fits.clockSequenceLow,
    Hex.digits_eq_leftpad 11 fits.node]
  rfl

/-- The parts of the namespace for domain names. -/
example :
    [Uuid.Namespace.dns.timeLow, Uuid.Namespace.dns.timeMid, Uuid.Namespace.dns.timeHigh,
      Uuid.Namespace.dns.clockSequenceHigh, Uuid.Namespace.dns.clockSequenceLow,
      Uuid.Namespace.dns.node] = [0x6ba7b810, 0x9dad, 0x1d1, 0x00, 0xb4, 0x00c04fd430c8] := by decide

end TimeBased
end UniqueId
