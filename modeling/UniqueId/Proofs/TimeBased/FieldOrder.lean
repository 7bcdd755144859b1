import UniqueId.Proofs.Uuid.Ordering
import UniqueId.Proofs.Words.Positional

/-! The order of time-based identifiers in terms of what is read from them. Identifiers of one
variant are ordered by timestamp, then by clock sequence, then by node. So minted identifiers are
ordered, and told apart, by the parts of tick and identity that there is room for. -/
namespace UniqueId
open Layout

namespace TimeBased

/-- The low word is the variant above the clock sequence above the node. -/
theorem toNat_low (v : TimeBased) :
    v.low.toNat =
      (1 <<< 48) * ((1 <<< 14) * (LowWord.variant.read v.low).toNat + v.clockSequence.toNat) +
        v.node.toNat := by
  have fits := v.low.toNat_lt
  rw [← UInt16.toNat_toUInt64, toUInt64_clockSequence, node, LowWord.variant_spans.toNat_read,
    LowWord.clockSequence_spans.toNat_read, LowWord.node_spans.toNat_read]
  simp only [Nat.shiftRight_eq_div_pow, Nat.one_shiftLeft]
  omega

theorem toNat_clockSequence_lt (v : TimeBased) : v.clockSequence.toNat < 1 <<< 14 := by
  rw [← UInt16.toNat_toUInt64, toUInt64_clockSequence, LowWord.clockSequence_spans.toNat_read]
  exact Nat.mod_lt _ (by decide)

theorem toNat_node_lt (v : TimeBased) : v.node.toNat < 1 <<< 48 := by
  rw [node, LowWord.node_spans.toNat_read]
  exact Nat.mod_lt _ (by decide)

/-- Identifiers of one variant are ordered by their fields. -/
theorem compare_of_variant_eq {v w : TimeBased}
    (h : LowWord.variant.read v.low = LowWord.variant.read w.low) :
    compare (Uuid.timeBased v) (.timeBased w) =
      (compare v.timestamp.toNat w.timestamp.toNat).then
        ((compare v.clockSequence.toNat w.clockSequence.toNat).then
          (compare v.node.toNat w.node.toNat)) := by
  have low : compare v.low w.low =
      (compare v.clockSequence.toNat w.clockSequence.toNat).then
        (compare v.node.toNat w.node.toNat) := by
    rw [UInt64.compare_eq_toNat_compare_toNat, toNat_low, toNat_low, h,
      compare_mul_add v.toNat_node_lt w.toNat_node_lt,
      compare_mul_add v.toNat_clockSequence_lt w.toNat_clockSequence_lt, Std.compare_self]
    rfl
  rw [Uuid.compare_timeBased, ← UInt64.compare_eq_toNat_compare_toNat, low]

theorem variant_read_mint (id : NodeIdentity) (tick : UInt64) :
    LowWord.variant.read (mint id tick).low = standardVariant := by
  have standard : ∀ i < 64, Word.bit standardVariant i = decide (i = 1) := by decide
  apply Word.ext_bit
  intro i hi
  rw [LowWord.variant_spans.bit_read, bit_mint_low, if_neg (by omega), if_neg (by omega),
    standard i hi, ← Bool.decide_and]
  exact decide_eq_decide.2 (by omega)

theorem toNat_clockSequence_mint_truncate (c : UInt16) (n tick : UInt64) :
    (mint (.truncate c n) tick).clockSequence.toNat = c.toNat % (1 <<< 14) := by
  rw [toNat_clockSequence_mint, NodeIdentity.toNat_clockSequence_truncate]
  exact Nat.mod_mod_of_dvd _ (by decide)

theorem toNat_node_mint_truncate (c : UInt16) (n tick : UInt64) :
    (mint (.truncate c n) tick).node.toNat = n.toNat % (1 <<< 48) := by
  rw [node_mint, NodeIdentity.toNat_node_truncate]

theorem compare_mint (c d : UInt16) (m n s t : UInt64) :
    compare (Uuid.timeBased (mint (.truncate c m) s)) (.timeBased (mint (.truncate d n) t)) =
      (compare (s.toNat % (1 <<< 60)) (t.toNat % (1 <<< 60))).then
        ((compare (c.toNat % (1 <<< 14)) (d.toNat % (1 <<< 14))).then
          (compare (m.toNat % (1 <<< 48)) (n.toNat % (1 <<< 48)))) := by
  rw [compare_of_variant_eq ((variant_read_mint _ s).trans (variant_read_mint _ t).symm)]
  simp only [toNat_timestamp_mint, toNat_clockSequence_mint_truncate, toNat_node_mint_truncate]

theorem timeBased_mint_eq_iff (c d : UInt16) (m n s t : UInt64) :
    Uuid.timeBased (mint (.truncate c m) s) = .timeBased (mint (.truncate d n) t) ↔
      s.toNat % (1 <<< 60) = t.toNat % (1 <<< 60) ∧
        c.toNat % (1 <<< 14) = d.toNat % (1 <<< 14) ∧
          m.toNat % (1 <<< 48) = n.toNat % (1 <<< 48) := by
  rw [← Std.compare_eq_iff_eq, compare_mint, Ordering.then_eq_eq, Ordering.then_eq_eq,
    Std.compare_eq_iff_eq, Std.compare_eq_iff_eq, Std.compare_eq_iff_eq]

/-- Numbers of fifteen bits with the same fourteen low ones differ in the highest bit at most. -/
theorem mod_eq_mod_iff_xor {a b : Nat} (ha : a < 0x8000) (hb : b < 0x8000) :
    a % 0x4000 = b % 0x4000 ↔ a = b ∨ a ^^^ b = 0x4000 := by
  have low : (a ^^^ b) % 0x4000 = a % 0x4000 ^^^ b % 0x4000 := Nat.xor_mod_two_pow (n := 14)
  have high : (a ^^^ b) / 0x4000 = a / 0x4000 ^^^ b / 0x4000 := Nat.xor_div_two_pow (n := 14)
  constructor
  · intro same
    rw [same, Nat.xor_self] at low
    by_cases top : a / 0x4000 = b / 0x4000
    · exact .inl (by omega)
    · have differ : ∀ x < 2, ∀ y < 2, x ≠ y → x ^^^ y = 1 := by decide
      rw [differ _ (by omega) _ (by omega) top] at high
      exact .inr (by omega)
  · rintro (rfl | flipped)
    · rfl
    · have none : 0 = a % 0x4000 ^^^ b % 0x4000 := by rw [← low, flipped]
      rw [← Nat.xor_zero (a % 0x4000), none, ← Nat.xor_assoc, Nat.xor_self, Nat.zero_xor]

/-- Minted identifiers are ordered by timestamp, clock sequence and node, each cut to its room, and
they are the same exactly if these agree. So two different identities and ticks that fit their
types give the same identifier only if nothing but the highest bit of the clock sequence differs. -/
theorem mint_order_embedding :
    (∀ (c d : UInt16) (m n s t : UInt64),
      compare (Uuid.timeBased (mint (.truncate c m) s)) (.timeBased (mint (.truncate d n) t)) =
        (compare (s.toNat % (1 <<< 60)) (t.toNat % (1 <<< 60))).then
          ((compare (c.toNat % (1 <<< 14)) (d.toNat % (1 <<< 14))).then
            (compare (m.toNat % (1 <<< 48)) (n.toNat % (1 <<< 48))))) ∧
    (∀ (c d : UInt16) (m n s t : UInt64),
      Uuid.timeBased (mint (.truncate c m) s) = .timeBased (mint (.truncate d n) t) ↔
        s.toNat % (1 <<< 60) = t.toNat % (1 <<< 60) ∧
          c.toNat % (1 <<< 14) = d.toNat % (1 <<< 14) ∧
            m.toNat % (1 <<< 48) = n.toNat % (1 <<< 48)) ∧
    ∀ (c d : UInt16) (m n s t : UInt64),
      c ≤ NodeIdentity.maxClockSequence → d ≤ NodeIdentity.maxClockSequence →
      m ≤ NodeIdentity.maxNode → n ≤ NodeIdentity.maxNode →
      s.toNat < 1 <<< 60 → t.toNat < 1 <<< 60 →
      (Uuid.timeBased (mint (.truncate c m) s) = .timeBased (mint (.truncate d n) t) ↔
        s = t ∧ m = n ∧ (c = d ∨ c ^^^ d = 0x4000)) := by
  refine ⟨compare_mint, timeBased_mint_eq_iff, ?_⟩
  intro c d m n s t hc hd hm hn hs ht
  have sequences : c.toNat % 0x4000 = d.toNat % 0x4000 ↔ c = d ∨ c ^^^ d = 0x4000 := by
    rw [mod_eq_mod_iff_xor (Nat.lt_succ_of_le (UInt16.le_iff_toNat_le.1 hc))
      (Nat.lt_succ_of_le (UInt16.le_iff_toNat_le.1 hd)), ← UInt16.toNat_inj, ← UInt16.toNat_inj,
      UInt16.toNat_xor]
    rfl
  have node {k : UInt64} (h : k ≤ NodeIdentity.maxNode) : k.toNat % (1 <<< 48) = k.toNat :=
    Nat.mod_eq_of_lt (Nat.lt_succ_of_le (UInt64.le_iff_toNat_le.1 h))
  rw [timeBased_mint_eq_iff, Nat.mod_eq_of_lt hs, Nat.mod_eq_of_lt ht, node hm, node hn,
    UInt64.toNat_inj, UInt64.toNat_inj, show 1 <<< 14 = 0x4000 by decide, sequences,
    and_comm (b := m = n)]

/-- Clock sequences that differ in their highest bit only, and in the bit below it only. -/
theorem mint_order_embedding_highest_bit :
    Uuid.timeBased (mint (.truncate 0x1234 7) 9) = .timeBased (mint (.truncate 0x5234 7) 9) ∧
    Uuid.timeBased (mint (.truncate 0x1234 7) 9) ≠ .timeBased (mint (.truncate 0x3234 7) 9) := by
  have fits := mint_order_embedding.2.2
  constructor
  · exact (fits 0x1234 0x5234 7 7 9 9 (by decide) (by decide) (by decide) (by decide) (by decide)
      (by decide)).2 ⟨rfl, rfl, .inr (by decide)⟩
  · intro same
    have differ := (fits 0x1234 0x3234 7 7 9 9 (by decide) (by decide) (by decide) (by decide)
      (by decide) (by decide)).1 same
    exact absurd differ (by decide)

end TimeBased
end UniqueId
