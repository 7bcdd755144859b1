import UniqueId.Proofs.TimeBased.Fields

/-! Minting and reading are inverse to each other. What is read from a minted identifier is what it
was minted from, and an identifier minted again from what was read of it has its bits back, except
that the two variant bits are now those of the standard layout. -/
namespace UniqueId
open Word Layout

namespace TimeBased

theorem variant_mint (id : NodeIdentity) (tick : UInt64) :
    (mint id tick).variant = .standard := by
  rw [Words.variant_eq_standard_iff, bit_mint_low, bit_mint_low]
  exact ⟨rfl, rfl⟩

/-- The identity that is read from an identifier fits as it is. -/
theorem clockSequence_truncate_fields (v : TimeBased) :
    (NodeIdentity.truncate v.clockSequence v.node).clockSequence = v.clockSequence := by
  have fits := LowWord.clockSequence_spans.toNat_read v.low
  rw [← toUInt64_clockSequence, UInt16.toNat_toUInt64] at fits
  apply UInt16.toNat_inj.1
  rw [NodeIdentity.toNat_clockSequence_truncate, fits]
  exact Nat.mod_eq_of_lt (Nat.lt_of_lt_of_le (Nat.mod_lt _ (by decide)) (by decide))

theorem node_truncate_fields (v : TimeBased) :
    (NodeIdentity.truncate v.clockSequence v.node).node = v.node := by
  apply UInt64.toNat_inj.1
  rw [NodeIdentity.toNat_node_truncate, node, LowWord.node_spans.toNat_read, Nat.mod_mod]

theorem bit_high_version (v : TimeBased) {i : Nat} (h : 12 ≤ i ∧ i < 16) :
    bit v.high i = bit 1 (i - 12) := by
  have hv : HighWord.version.read v.high = 1 := v.version_eq
  rw [← hv, HighWord.version_spans.bit_read, decide_eq_true (by omega), Bool.true_and,
    Nat.add_sub_cancel' h.1]

/-- The high word holds the timestamp and the version, and nothing else. -/
theorem high_mint_timestamp (id : NodeIdentity) (v : TimeBased) :
    (mint id v.timestamp).high = v.high := by
  apply ext_bit
  intro i hi
  rw [bit_mint_high, bit_timestamp, bit_timestamp, bit_timestamp]
  by_cases low : 32 ≤ i
  · rw [if_pos ⟨low, hi⟩, if_pos (by omega), Nat.add_sub_cancel' low]
  rw [if_neg (by omega)]
  by_cases mid : 16 ≤ i
  · rw [if_pos (by omega), if_neg (by omega), if_pos (by omega), Nat.add_sub_cancel]
  rw [if_neg (by omega)]
  by_cases version : 12 ≤ i
  · rw [if_pos (by omega), v.bit_high_version (by omega)]
  · rw [if_neg (by omega), decide_eq_true (by omega), Bool.true_and, if_neg (by omega),
      if_neg (by omega), if_pos (by omega), Nat.add_sub_cancel_left]

theorem high_eq_of_timestamp_eq {v w : TimeBased} (h : v.timestamp = w.timestamp) :
    v.high = w.high := by
  rw [← high_mint_timestamp (.truncate 0 0) v, h, high_mint_timestamp]

theorem bit_low_mint_fields (v : TimeBased) (tick : UInt64) {i : Nat} (h : i < 62) :
    bit (mint (.truncate v.clockSequence v.node) tick).low i = bit v.low i := by
  rw [bit_mint_low, clockSequence_truncate_fields, node_truncate_fields, toUInt64_clockSequence]
  by_cases node : i < 48
  · rw [if_pos node, TimeBased.node, LowWord.node_spans.bit_read, decide_eq_true node,
      Bool.true_and, Nat.zero_add]
  · rw [if_neg node, if_pos h, LowWord.clockSequence_spans.bit_read, decide_eq_true (by omega),
      Bool.true_and, Nat.add_sub_cancel' (by omega)]

theorem low_mint_fields_eq_iff (v : TimeBased) (tick : UInt64) :
    (mint (.truncate v.clockSequence v.node) tick).low = v.low ↔ v.variant = .standard := by
  constructor
  · intro h
    rw [Words.variant_eq_standard_iff, ← h, ← Words.variant_eq_standard_iff]
    exact variant_mint _ tick
  · intro h
    have top := v.variant_eq_standard_iff.1 h
    apply ext_bit
    intro i hi
    by_cases field : i < 62
    · exact bit_low_mint_fields v tick field
    rw [bit_mint_low, if_neg (by omega), if_neg field]
    by_cases last : i = 63
    · rw [decide_eq_true last, last, top.1]
    · rw [decide_eq_false last, show i = 62 by omega, top.2]

/-- An identifier minted at a tick under an identity gives both back, as far as there is room for
them. An identifier of any origin, minted again from what it gives, is the same but for the two
variant bits, and the same altogether if it is of the standard layout. -/
theorem mint_reads_back :
    (∀ (c : UInt16) (n t : UInt64),
      (mint (.truncate c n) t).version = 1 ∧
      (mint (.truncate c n) t).variant = .standard ∧
      (mint (.truncate c n) t).timestamp.toNat = t.toNat % (1 <<< 60) ∧
      (mint (.truncate c n) t).clockSequence.toNat = c.toNat % (1 <<< 14) ∧
      (mint (.truncate c n) t).node.toNat = n.toNat % (1 <<< 48)) ∧
    ∀ v : TimeBased,
      (mint (.truncate v.clockSequence v.node) v.timestamp).high = v.high ∧
      (mint (.truncate v.clockSequence v.node) v.timestamp).low.toNat % (1 <<< 62) =
        v.low.toNat % (1 <<< 62) ∧
      ((mint (.truncate v.clockSequence v.node) v.timestamp).low = v.low ↔
        v.variant = .standard) := by
  constructor
  · intro c n t
    refine ⟨(mint _ t).version_eq, variant_mint _ t, toNat_timestamp_mint _ t, ?_, ?_⟩
    · rw [toNat_clockSequence_mint, NodeIdentity.toNat_clockSequence_truncate]
      exact Nat.mod_mod_of_dvd _ (by decide)
    · rw [node_mint, NodeIdentity.toNat_node_truncate]
  · intro v
    refine ⟨high_mint_timestamp _ v, ?_, low_mint_fields_eq_iff v _⟩
    apply Nat.eq_of_testBit_eq
    intro i
    rw [Nat.one_shiftLeft, Nat.testBit_mod_two_pow, Nat.testBit_mod_two_pow, ← bit_eq_testBit,
      ← bit_eq_testBit]
    by_cases h : i < 62
    · rw [bit_low_mint_fields v _ h]
    · rw [decide_eq_false h, Bool.false_and, Bool.false_and]

/-- The clock sequence `0x1234` stands behind the variant bits, and the low part of the timestamp
first. -/
example : (mint (.truncate 0x1234 0x010203040506) 0x01e13b9f2e4ac000).toWords =
    ⟨0x2e4ac0003b9f11e1, 0x9234010203040506⟩ := by decide

end TimeBased
end UniqueId
