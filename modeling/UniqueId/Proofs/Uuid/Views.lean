import UniqueId.Proofs.Words.Positional
import UniqueId.Uuid.Interchange
import UniqueId.Uuid.Namespace

/-! The binary views of an identifier: two words, a number, sixteen octets, and an identifier of
another library. Each of them is the whole identifier, so it makes no difference from which of them
an identifier is made. What it takes for two views to be of the same value is said in terms of
numbers alone. -/
namespace UniqueId

namespace Words

/-- The words of a number are its upper and its lower half. -/
theorem eq_ofNumber_iff (w : Words) (n : BitVec 128) :
    w = ofNumber n ↔ w.high.toNat = n.toNat >>> 64 ∧ w.low.toNat = n.toNat % (1 <<< 64) := by
  have low := w.low.toNat_lt
  have spelled : w = ofNumber n ↔ w.toNumber.toNat = n.toNat := by
    rw [← BitVec.toNat_eq]
    constructor
    · rintro rfl
      exact toNumber_ofNumber n
    · rintro rfl
      exact (ofNumber_toNumber w).symm
  rw [spelled, toNat_toNumber, Nat.shiftRight_eq_div_pow, Nat.one_shiftLeft]
  omega

end Words

/-- Octets spell a number exactly if they are its octets. -/
theorem Octets.toNumber_eq_iff (o : Octets) (n : BitVec 128) :
    o.toNumber = n ↔ o.toList = ByteOrder.bigEndian.octets 16 n.toNat := by
  rw [← toList_ofNumber, Vector.toList_inj]
  constructor
  · rintro rfl
    exact (ofNumber_toNumber o).symm
  · rintro rfl
    exact toNumber_ofNumber n

namespace Uuid

theorem ofWords_injective : Function.Injective ofWords :=
  Function.LeftInverse.injective words_ofWords

theorem ofWords_ofNumber_eq_iff (m n : BitVec 128) :
    ofWords (.ofNumber m) = ofWords (.ofNumber n) ↔ m = n := by
  have inverse : Function.LeftInverse Words.toNumber Words.ofNumber := Words.toNumber_ofNumber
  rw [ofWords_injective.eq_iff, inverse.injective.eq_iff]

section
variable {α : Type} (p : Peer α)

/-- Four views of one value: the words are the halves of the number, the octets are its octets with
the most significant first, and the other library's identifier gives it. -/
structure SameValue (w : Words) (n : BitVec 128) (o : Octets) (a : α) : Prop where
  high : w.high.toNat = n.toNat >>> 64
  low : w.low.toNat = n.toNat % (1 <<< 64)
  octets : o.toList = ByteOrder.bigEndian.octets 16 n.toNat
  peer : p.toNumber a = n

variable {p}

/-- Views are of one value exactly if the same identifier is made from all of them. -/
theorem sameValue_iff (w : Words) (n : BitVec 128) (o : Octets) (a : α) :
    SameValue p w n o a ↔
      ofWords w = ofWords (.ofNumber n) ∧ ofWords (.ofOctets o) = ofWords (.ofNumber n) ∧
        ofPeer p a = ofWords (.ofNumber n) := by
  have words := ofWords_injective.eq_iff.trans (w.eq_ofNumber_iff n)
  have octets := (ofWords_ofNumber_eq_iff o.toNumber n).trans (o.toNumber_eq_iff n)
  have peer := ofWords_ofNumber_eq_iff (p.toNumber a) n
  constructor
  · rintro ⟨high, low, spelled, number⟩
    exact ⟨words.2 ⟨high, low⟩, octets.2 spelled, peer.2 number⟩
  · rintro ⟨hw, ho, ha⟩
    obtain ⟨high, low⟩ := words.1 hw
    exact ⟨high, low, octets.1 ho, peer.1 ha⟩

theorem ofPeer_toPeer (h : p.Lawful) (u : Uuid) : ofPeer p (u.toPeer p) = u := by
  rw [ofPeer, toPeer, h.toNumber_ofNumber, Words.ofNumber_toNumber, ofWords_words]

theorem toPeer_ofPeer (h : p.Lawful) (a : α) : (ofPeer p a).toPeer p = a := by
  rw [toPeer, ofPeer, words_ofWords, Words.toNumber_ofNumber, h.ofNumber_toNumber]

theorem sameValue_views (h : p.Lawful) (u : Uuid) :
    SameValue p u.words u.words.toNumber u.words.toOctets (u.toPeer p) := by
  rw [sameValue_iff, Words.ofOctets_toOctets, Words.ofNumber_toNumber, ofPeer_toPeer h,
    ofWords_words]
  exact ⟨rfl, rfl, rfl⟩

/-- Every view of an identifier gives it back, and whatever an identifier is made from is given
back by it. The views of one identifier are of one value, and the same identifier is made from
views exactly if they are of one value. -/
theorem views_agree (h : p.Lawful) :
    (∀ u : Uuid, ofWords u.words = u ∧ ofWords (.ofNumber u.words.toNumber) = u ∧
      ofWords (.ofOctets u.words.toOctets) = u ∧ ofPeer p (u.toPeer p) = u) ∧
    (∀ w : Words, (ofWords w).words = w) ∧
    (∀ n : BitVec 128, (ofWords (.ofNumber n)).words.toNumber = n) ∧
    (∀ o : Octets, (ofWords (.ofOctets o)).words.toOctets = o) ∧
    (∀ a : α, (ofPeer p a).toPeer p = a) ∧
    (∀ u : Uuid, SameValue p u.words u.words.toNumber u.words.toOctets (u.toPeer p)) ∧
    ∀ (w : Words) (n : BitVec 128) (o : Octets) (a : α),
      SameValue p w n o a ↔
        ofWords w = ofWords (.ofNumber n) ∧ ofWords (.ofOctets o) = ofWords (.ofNumber n) ∧
          ofPeer p a = ofWords (.ofNumber n) := by
  refine ⟨fun u => ?back, words_ofWords, fun n => ?number, fun o => ?octets, toPeer_ofPeer h,
    sameValue_views h, sameValue_iff⟩
  case back =>
    rw [Words.ofNumber_toNumber, Words.ofOctets_toOctets, ofWords_words]
    exact ⟨rfl, rfl, rfl, ofPeer_toPeer h u⟩
  case number => rw [words_ofWords, Words.toNumber_ofNumber]
  case octets => rw [words_ofWords, Words.toOctets_ofOctets]

end

/-- Identifiers of a library that keeps their sixteen octets. -/
def octetPeer : Peer Octets := ⟨Octets.ofNumber, Octets.toNumber⟩

theorem octetPeer_lawful : octetPeer.Lawful where
  toNumber_ofNumber n := by simp [octetPeer]
  ofNumber_toNumber o := by simp [octetPeer]

/-- The octets of the namespace for domain names. -/
def dnsOctets : Octets :=
  #v[0x6b, 0xa7, 0xb8, 0x10, 0x9d, 0xad, 0x11, 0xd1, 0x80, 0xb4, 0x00, 0xc0, 0x4f, 0xd4, 0x30, 0xc8]

/-- The namespace for domain names, made from what a library of octets has in its place. -/
theorem views_agree_octets :
    SameValue octetPeer Namespace.dns.toWords 0x6ba7b8109dad11d180b400c04fd430c8 dnsOctets
      dnsOctets ∧
    ofPeer octetPeer dnsOctets = ofWords Namespace.dns.toWords ∧
    (ofWords Namespace.dns.toWords).toPeer octetPeer = dnsOctets := by
  obtain ⟨-, -, -, -, back, -, same⟩ := views_agree octetPeer_lawful
  have one : SameValue octetPeer Namespace.dns.toWords 0x6ba7b8109dad11d180b400c04fd430c8 dnsOctets
      dnsOctets := ⟨by decide, by decide, by decide, by decide⟩
  obtain ⟨words, -, peer⟩ := (same _ _ _ _).1 one
  have made : ofPeer octetPeer dnsOctets = ofWords Namespace.dns.toWords := peer.trans words.symm
  exact ⟨one, made, made ▸ back dnsOctets⟩

end Uuid
end UniqueId
