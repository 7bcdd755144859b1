import Mathlib.Tactic.TFAE
import UniqueId.NameBased
import UniqueId.Proofs.Uuid.Ordering
import UniqueId.Proofs.Uuid.RoundTrip
import UniqueId.RandomBased
import UniqueId.Uuid.Interchange

/-! The kind of an identifier and its bits never disagree. Whoever makes an identifier puts the
kind on it that its version field declares, so the bits alone tell two identifiers apart, in
whatever form they are looked at. -/
namespace UniqueId

namespace Uuid

/-- The kind that a maker of identifiers puts on the bits that it comes up with. Readers leave the
kind to the bits; the others choose it themselves, whatever the bits are. -/
inductive Labelled : Kind → Words → Prop
  | words (w : Words) : Labelled (ofWords w).kind w
  | number (n : BitVec 128) : Labelled (ofWords (.ofNumber n)).kind (.ofNumber n)
  | octets (o : Octets) : Labelled (ofWords (.ofOctets o)).kind (.ofOctets o)
  | text {s : String} {u : Uuid} (h : parse s = .ok u) : Labelled u.kind u.words
  | token {t : Token} {u : Uuid} (h : ofToken t = .ok u) : Labelled u.kind u.words
  | nil : Labelled .nil .zero
  | space {v : TimeBased}
      (h : v ∈ [Namespace.dns, Namespace.url, Namespace.oid, Namespace.x500]) :
      Labelled .timeBased v.toWords
  | minted (id : NodeIdentity) (tick : UInt64) :
      Labelled .timeBased (TimeBased.mint id tick).toWords
  | namedMd5 (space : Uuid) (name : List UInt8) :
      Labelled .namedMd5 (NamedMd5.ofName space name).toWords
  | namedSha1 (space : Uuid) (name : List UInt8) :
      Labelled .namedSha1 (NamedSha1.ofName space name).toWords
  | stamped (w : Words) : Labelled .randomBased (RandomBased.ofWords w).toWords
  | drawn {ds : Draws} {v : RandomBased} (h : (RandomBased.draw ds).1 = some v) :
      Labelled .randomBased v.toWords
  | drawnAt {seconds : UInt32} {ds : Draws} {v : RandomBased}
      (h : (RandomBased.drawAt seconds ds).1 = some v) : Labelled .randomBased v.toWords
  | asTimeBased {u : Uuid} {v : TimeBased} (h : u.asTimeBased? = some v) :
      Labelled .timeBased v.toWords
  | asDceSecurity {u : Uuid} {v : DceSecurity} (h : u.asDceSecurity? = some v) :
      Labelled .dceSecurity v.toWords
  | asNamedMd5 {u : Uuid} {v : NamedMd5} (h : u.asNamedMd5? = some v) :
      Labelled .namedMd5 v.toWords
  | asRandomBased {u : Uuid} {v : RandomBased} (h : u.asRandomBased? = some v) :
      Labelled .randomBased v.toWords
  | asNamedSha1 {u : Uuid} {v : NamedSha1} (h : u.asNamedSha1? = some v) :
      Labelled .namedSha1 v.toWords
  | asUnassigned {u : Uuid} {v : Unassigned} (h : u = unassigned v) :
      Labelled .unassigned v.toWords

theorem Labelled.kind_eq {k : Kind} {w : Words} (h : Labelled k w) : (ofWords w).kind = k := by
  have own (u : Uuid) : (ofWords u.words).kind = u.kind := congrArg kind u.ofWords_words
  cases h with
  | words | number | octets => rfl
  | text | token => exact own _
  | nil => exact own .nil
  | space | minted | asTimeBased => exact own (timeBased _)
  | asDceSecurity => exact own (dceSecurity _)
  | namedMd5 | asNamedMd5 => exact own (.namedMd5 _)
  | stamped | drawn | drawnAt | asRandomBased => exact own (randomBased _)
  | namedSha1 | asNamedSha1 => exact own (.namedSha1 _)
  | asUnassigned => exact own (unassigned _)

theorem isNil_iff (u : Uuid) : u.isNil = true ↔ u.words.high = 0 ∧ u.words.low = 0 := by
  rw [isNil, decide_eq_true_iff, kind_eq_nil_iff, Words.zero, Words.ext_iff]

/-- An accessor that takes identifiers of its kind apart, and none of the others, gives the bits
exactly where the version field holds the number of the kind. -/
theorem accessor_eq {α : Type} {k : Kind} {n : UInt64} {get? : Uuid → Option α} {f : α → Uuid}
    {make : (w : Words) → w.version = n → α} (hk : k.version? = some n)
    (words_f : ∀ w h, (f (make w h)).words = w) (own : ∀ a, get? (f a) = some a)
    (foreign : ∀ u, u.kind ≠ k → get? u = none) (u : Uuid) :
    get? u = if h : u.words.version = n then some (make u.words h) else none := by
  by_cases h : u.words.version = n
  · have apart : f (make u.words h) = u := words_injective (words_f u.words h)
    rw [dif_pos h, ← own, apart]
  · rw [dif_neg h]
    exact foreign u (mt (kind_eq_iff hk u).1 h)

theorem asTimeBased?_eq (u : Uuid) :
    u.asTimeBased? = if h : u.words.version = 1 then some ⟨u.words, h⟩ else none := by
  refine accessor_eq (k := .timeBased) (f := timeBased) rfl (fun _ _ => rfl) (fun _ => rfl) ?_ u
  intro u foreign
  cases u with
  | timeBased v => exact absurd rfl foreign
  | _ => rfl

theorem asDceSecurity?_eq (u : Uuid) :
    u.asDceSecurity? = if h : u.words.version = 2 then some ⟨u.words, h⟩ else none := by
  refine accessor_eq (k := .dceSecurity) (f := dceSecurity) rfl (fun _ _ => rfl) (fun _ => rfl)
    ?_ u
  intro u foreign
  cases u with
  | dceSecurity v => exact absurd rfl foreign
  | _ => rfl

theorem asNamedMd5?_eq (u : Uuid) :
    u.asNamedMd5? = if h : u.words.version = 3 then some ⟨u.words, h⟩ else none := by
  refine accessor_eq (k := .namedMd5) (f := namedMd5) rfl (fun _ _ => rfl) (fun _ => rfl) ?_ u
  intro u foreign
  cases u with
  | namedMd5 v => exact absurd rfl foreign
  | _ => rfl

theorem asRandomBased?_eq (u : Uuid) :
    u.asRandomBased? = if h : u.words.version = 4 then some ⟨u.words, h⟩ else none := by
  refine accessor_eq (k := .randomBased) (f := randomBased) rfl (fun _ _ => rfl) (fun _ => rfl) ?_ u
  intro u foreign
  cases u with
  | randomBased v => exact absurd rfl foreign
  | _ => rfl

theorem asNamedSha1?_eq (u : Uuid) :
    u.asNamedSha1? = if h : u.words.version = 5 then some ⟨u.words, h⟩ else none := by
  refine accessor_eq (k := .namedSha1) (f := namedSha1) rfl (fun _ _ => rfl) (fun _ => rfl) ?_ u
  intro u foreign
  cases u with
  | namedSha1 v => exact absurd rfl foreign
  | _ => rfl

/-- All views of two identifiers find the same difference between them, if there is one. -/
theorem eq_views (u v : Uuid) :
    [u = v, u.words = v.words, u.words.toOctets = v.words.toOctets,
      u.words.toNumber = v.words.toNumber, u.encode = v.encode, compare u v = .eq].TFAE := by
  tfae_have 1 ↔ 2 := words_injective.eq_iff.symm
  tfae_have 2 ↔ 3 := Words.toOctets_injective.eq_iff.symm
  tfae_have 2 ↔ 4 := Words.toNumber_injective.eq_iff.symm
  tfae_have 1 ↔ 5 := encode_injective.eq_iff.symm
  tfae_have 1 ↔ 6 := Std.compare_eq_iff_eq.symm
  tfae_finish

/-- An identifier is the one that its bits make, whoever made it. So it is nil exactly if no bit
is set, and of a kind exactly if the version field holds the number of that kind; and equality,
words, octets, number, text and order all agree on which identifiers are the same. -/
theorem kind_agreement :
    (∀ u : Uuid, ofWords u.words = u) ∧
    (∀ (k : Kind) (w : Words), Labelled k w → (ofWords w).kind = k) ∧
    (∀ u : Uuid, u.isNil = true ↔ u.words.high = 0 ∧ u.words.low = 0) ∧
    (∀ u : Uuid,
      (u.isTimeBased = true ↔ u.version = 1) ∧
      (u.isDceSecurity = true ↔ u.version = 2) ∧
      (u.isNamedMd5 = true ↔ u.version = 3) ∧
      (u.isRandomBased = true ↔ u.version = 4) ∧
      (u.isNamedSha1 = true ↔ u.version = 5)) ∧
    (∀ u : Uuid,
      (u.asTimeBased? = if h : u.words.version = 1 then some ⟨u.words, h⟩ else none) ∧
      (u.asDceSecurity? = if h : u.words.version = 2 then some ⟨u.words, h⟩ else none) ∧
      (u.asNamedMd5? = if h : u.words.version = 3 then some ⟨u.words, h⟩ else none) ∧
      (u.asRandomBased? = if h : u.words.version = 4 then some ⟨u.words, h⟩ else none) ∧
      (u.asNamedSha1? = if h : u.words.version = 5 then some ⟨u.words, h⟩ else none)) ∧
    ∀ u v : Uuid,
      [u = v, u.words = v.words, u.words.toOctets = v.words.toOctets,
        u.words.toNumber = v.words.toNumber, u.encode = v.encode, compare u v = .eq].TFAE := by
  refine ⟨ofWords_words, fun k w => Labelled.kind_eq, isNil_iff, ?kinds, ?payloads, eq_views⟩
  case kinds =>
    have is {k : Kind} {n : UInt64} (h : k.version? = some n) (u : Uuid) :
        decide (u.kind = k) = true ↔ u.version = n :=
      decide_eq_true_iff.trans (kind_eq_iff h u)
    intro u
    exact ⟨is rfl u, is rfl u, is rfl u, is rfl u, is rfl u⟩
  case payloads =>
    intro u
    exact ⟨asTimeBased?_eq u, asDceSecurity?_eq u, asNamedMd5?_eq u, asRandomBased?_eq u,
      asNamedSha1?_eq u⟩

/-- An identifier minted from words that are all ones but for the version, and a random identifier
whose first half was overwritten after the version had been set. -/
theorem kind_agreement_overwritten :
    (ofWords (TimeBased.mint (.truncate 0xffff 0xffffffffffffffff) 0xffffffffffffffff).toWords).kind
      = .timeBased ∧
    (ofWords ⟨0x00000007ffff4fff, 0xbfffffffffffffff⟩).kind = .randomBased := by
  have drawn : (RandomBased.drawAt 7 [0xffffffffffffffff, 0xffffffffffffffff]).1 =
      some ⟨⟨0x00000007ffff4fff, 0xbfffffffffffffff⟩, by decide⟩ := by decide
  obtain ⟨-, label, -⟩ := kind_agreement
  exact ⟨label _ _ (.minted _ _), label _ _ (.drawnAt drawn)⟩

end Uuid
end UniqueId
