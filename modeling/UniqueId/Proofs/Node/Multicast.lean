import UniqueId.Proofs.Node.Derivation
import UniqueId.Word.Bits

/-! Whether a derived node can be taken for the address of a device. A node is six octets long, and
the lowest bit of the first one tells: it is set in multicast addresses, which no device has for its
own, and clear in the addresses of devices. A fingerprint has the lowest bit of the last octet set
instead, and its first octet is that of the digest. -/
namespace UniqueId.NodeIdentity

/-- The lowest bit of the first of the six octets is set. -/
def IsMulticast (id : NodeIdentity) : Prop := Word.bit id.node 40 = true

instance (id : NodeIdentity) : Decidable id.IsMulticast := inferInstanceAs (Decidable (_ = _))

/-- The first octet of the digest from which the fingerprint of the descriptors is taken. -/
def leadingOctet (descriptors : List String) : UInt8 :=
  (Digest.Md5.digest (fingerprintMessage descriptors)).get 0

/-- An octet more, and its lowest bit set, is the lowest bit of the number set. -/
theorem number_concat_or_one (bs : List UInt8) (b : UInt8) :
    ByteOrder.bigEndian.number (bs ++ [b ||| 1]) = ByteOrder.bigEndian.number (bs ++ [b]) ||| 1 := by
  have or_one (n : Nat) : n ||| 1 = 2 * (n / 2) + 1 := by
    have low : (n ||| 1) % 2 = 1 := Nat.or_mod_two_eq_one.2 (.inr rfl)
    have high : (n ||| 1) / 2 = n / 2 := by rw [Nat.or_div_two]; exact Nat.or_zero _
    omega
  rw [ByteOrder.number_bigEndian_concat, ByteOrder.number_bigEndian_concat, UInt8.toNat_or,
    UInt8.toNat_one, or_one, or_one]
  omega

/-- A fingerprint spells the first six octets of the digest, but for the lowest bit of the last. -/
theorem exists_spelled (descriptors : List String) :
    ∃ middle last, middle.length = 4 ∧
      (Digest.Md5.digest (fingerprintMessage descriptors)).toList.take 6 =
        leadingOctet descriptors :: (middle ++ [last]) ∧
      (fingerprint descriptors).toNat =
        ByteOrder.bigEndian.number (leadingOctet descriptors :: (middle ++ [last ||| 1])) := by
  let d := Digest.Md5.digest (fingerprintMessage descriptors)
  have front : d.toList.take 6 = [d[0], d[1], d[2], d[3], d[4], d[5]] := by
    simp [List.take_add_one]
  refine ⟨[d[1], d[2], d[3], d[4]], d[5], rfl, front, ?_⟩
  have lt : _ < 1 <<< 48 :=
    ByteOrder.number_bigEndian_lt [d[0], d[1], d[2], d[3], d[4], d[5] ||| 1]
  change (UInt64.ofNat (ByteOrder.bigEndian.number _)).toNat = _
  rw [UInt64.toNat_ofNat']
  exact Nat.mod_eq_of_lt (Nat.lt_trans lt (by decide))

/-- A fingerprint is the first octet of the digest above forty bits, of which the lowest is set. -/
theorem toNat_fingerprint (descriptors : List String) :
    ∃ rest, rest < 1 <<< 40 ∧ rest % 2 = 1 ∧
      (fingerprint descriptors).toNat = (1 <<< 40) * (leadingOctet descriptors).toNat + rest := by
  obtain ⟨middle, last, four, -, value⟩ := exists_spelled descriptors
  have five : (middle ++ [last ||| 1]).length = 5 := by rw [List.length_append, four]; rfl
  have lt := ByteOrder.number_bigEndian_lt (middle ++ [last ||| 1])
  rw [ByteOrder.number_bigEndian_cons, five] at value
  rw [five] at lt
  refine ⟨_, lt, ?odd, value⟩
  rw [number_concat_or_one]
  exact Nat.or_mod_two_eq_one.2 (.inr rfl)

theorem fingerprint_lt (descriptors : List String) :
    (fingerprint descriptors).toNat < 1 <<< 48 := by
  obtain ⟨rest, lt, -, value⟩ := toNat_fingerprint descriptors
  have first := (leadingOctet descriptors).toNat_lt
  rw [show 1 <<< 40 = 1099511627776 by decide] at lt value
  rw [show 1 <<< 48 = 281474976710656 by decide]
  omega

/-- A fingerprint fits a node. -/
theorem toNat_node_ofDraw (draw : UInt64) (descriptors : List String) :
    (ofDraw draw descriptors).node.toNat = (fingerprint descriptors).toNat := by
  rw [ofDraw, toNat_node_truncate]
  exact Nat.mod_eq_of_lt (fingerprint_lt descriptors)

/-- Descriptors and a draw always give an identity. The lowest bit of its node is set. But it is the
lowest bit of the first octet that tells a node from the address of a device, and that bit is as the
digest has it. -/
theorem isMulticast_derived_iff (descriptors : List String) (draw : UInt64) (rest : Draws) :
    (derive (.ok descriptors) (draw :: rest)).result = .ok (ofDraw draw descriptors) ∧
    (ofDraw draw descriptors).node.toNat % 2 = 1 ∧
    ((ofDraw draw descriptors).IsMulticast ↔ (leadingOctet descriptors).toNat % 2 = 1) := by
  obtain ⟨low, lt, odd, value⟩ := toNat_fingerprint descriptors
  rw [show 1 <<< 40 = 1099511627776 by decide] at lt value
  refine ⟨by rw [derive_cons], ?_, ?_⟩
  · rw [toNat_node_ofDraw]
    omega
  · rw [IsMulticast, Word.bit_eq_testBit, toNat_node_ofDraw, Nat.testBit_eq_decide_div_mod_eq,
      decide_eq_true_iff, value]
    omega

/-- A node that could be the address of a device. -/
theorem derived_not_multicast :
    (derive (.ok ["linux", "x86_64", "host"]) [0]).result = .ok (truncate 0 0xa2d01fbf631b) ∧
    ¬ (truncate 0 0xa2d01fbf631b).IsMulticast := by
  have node : fingerprint ["linux", "x86_64", "host"] = 0xa2d01fbf631b := by decide +kernel
  refine ⟨?_, by decide⟩
  rw [derive_cons, ofDraw, node]
  rfl

end UniqueId.NodeIdentity
