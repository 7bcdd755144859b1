import Mathlib.Data.List.Induction
import Mathlib.Logic.Relation
import UniqueId.Proofs.Node.Multicast

/-! What a fingerprint is taken of. Each text counts where it first occurs and nowhere else, so
copies of a text that come later make no difference to the node, and the texts make none to the
clock sequence. -/
namespace UniqueId.NodeIdentity

/-- The texts of a list, in the order in which they first occur in it. -/
structure FirstOccurrences (descriptors distinct : List String) : Prop where
  mem_iff : ∀ d, d ∈ distinct ↔ d ∈ descriptors
  ordered : distinct.Pairwise fun d e => descriptors.idxOf d < descriptors.idxOf e

theorem eraseDups_concat (ds : List String) (d : String) :
    (ds ++ [d]).eraseDups = if d ∈ ds then ds.eraseDups else ds.eraseDups ++ [d] := by
  rw [List.eraseDups_append]
  by_cases met : d ∈ ds
  · rw [if_pos met, show [d].removeAll ds = [] by simp [List.removeAll, met]]
    exact List.append_nil _
  · rw [if_neg met, show [d].removeAll ds = [d] by simp [List.removeAll, met]]
    rfl

theorem firstOccurrences_eraseDups (ds : List String) : FirstOccurrences ds ds.eraseDups := by
  refine ⟨fun d => List.mem_eraseDups, ?_⟩
  induction ds using List.reverseRecOn with
  | nil => exact .nil
  | append_singleton ds d ih =>
    have before {e : String} (mem : e ∈ ds.eraseDups) :
        (ds ++ [d]).idxOf e = ds.idxOf e ∧ ds.idxOf e < ds.length := by
      have mem := List.mem_eraseDups.1 mem
      exact ⟨by rw [List.idxOf_append, if_pos mem], List.idxOf_lt_length_of_mem mem⟩
    have kept : ds.eraseDups.Pairwise fun e f => (ds ++ [d]).idxOf e < (ds ++ [d]).idxOf f := by
      refine ih.imp_of_mem fun {e f} he hf lt => ?_
      rwa [(before he).1, (before hf).1]
    rw [eraseDups_concat]
    by_cases met : d ∈ ds
    · rw [if_pos met]
      exact kept
    · rw [if_neg met]
      refine List.pairwise_append.2 ⟨kept, List.pairwise_singleton _ _, ?_⟩
      intro e he f hf
      obtain rfl := List.mem_singleton.1 hf
      rw [(before he).1, List.idxOf_append, if_neg met]
      exact Nat.lt_of_lt_of_le (before he).2 (Nat.le_add_left _ _)

/-- There is one such list only. -/
theorem FirstOccurrences.eq {ds es fs : List String} (he : FirstOccurrences ds es)
    (hf : FirstOccurrences ds fs) : es = fs := by
  have nodup {gs : List String} (h : FirstOccurrences ds gs) : gs.Nodup :=
    h.ordered.imp fun {a b} lt same => by simp [same] at lt
  have perm : es.Perm fs := (List.perm_ext_iff_of_nodup (nodup he) (nodup hf)).2 fun d => by
    rw [he.mem_iff, hf.mem_iff]
  refine perm.eq_of_pairwise ?_ he.ordered hf.ordered
  intro a b _ _ lt gt
  omega

/-- A fingerprint under way: the texts met so far, and the octets taken in for them. -/
structure Intake where
  seen : List String
  message : List UInt8

namespace Intake

def start : Intake := ⟨[], []⟩

/-- Takes a text in, unless it was met before. -/
def meet (p : Intake) (d : String) : Intake :=
  if d ∈ p.seen then p else ⟨d :: p.seen, p.message ++ d.toUTF8.data.toList⟩

theorem mem_seen_meet (p : Intake) (d e : String) :
    e ∈ (p.meet d).seen ↔ e ∈ p.seen ∨ e = d := by
  rw [meet]
  split
  case isTrue met =>
    constructor
    · exact .inl
    · rintro (mem | rfl)
      · exact mem
      · exact met
  case isFalse => rw [List.mem_cons, or_comm]

theorem mem_seen_foldl (ds : List String) (e : String) :
    e ∈ (ds.foldl meet start).seen ↔ e ∈ ds := by
  induction ds using List.reverseRecOn with
  | nil => rfl
  | append_singleton ds d ih =>
    rw [List.foldl_append, List.foldl_cons, List.foldl_nil, mem_seen_meet, ih, List.mem_append,
      List.mem_singleton]

/-- Text after text the octets come to what the fingerprint is taken of. -/
theorem message_foldl (ds : List String) : (ds.foldl meet start).message = fingerprintMessage ds := by
  induction ds using List.reverseRecOn with
  | nil => rfl
  | append_singleton ds d ih =>
    rw [List.foldl_append, List.foldl_cons, List.foldl_nil, meet, fingerprintMessage,
      eraseDups_concat]
    by_cases met : d ∈ ds
    · rw [if_pos ((mem_seen_foldl ds d).2 met), if_pos met, ih, fingerprintMessage]
    · rw [if_neg (mt (mem_seen_foldl ds d).1 met), if_neg met, ih, fingerprintMessage,
        List.flatMap_append, List.flatMap_singleton]

end Intake

/-- A fingerprint is the number that the first six octets of the digest spell, with its lowest bit
set. -/
theorem toNat_fingerprint_eq_or_one (ds : List String) :
    (fingerprint ds).toNat =
      ByteOrder.bigEndian.number
        ((Digest.Md5.digest (fingerprintMessage ds)).toList.take 6) ||| 1 := by
  obtain ⟨middle, last, -, front, value⟩ := exists_spelled ds
  rw [front, value]
  exact number_concat_or_one (leadingOctet ds :: middle) last

/-- A copy of a text is put in, somewhere after the text itself. -/
inductive CopyInserted : List String → List String → Prop
  | insert {as bs : List String} {d : String} (met : d ∈ as) : CopyInserted (as ++ bs) (as ++ d :: bs)

theorem CopyInserted.eraseDups_eq {ds es : List String} (h : CopyInserted ds es) :
    ds.eraseDups = es.eraseDups := by
  cases h with
  | @insert as bs d met =>
    rw [List.eraseDups_append, List.eraseDups_append]
    simp [List.removeAll, met]

/-- Lists of the same texts in the same order of first occurrence give one fingerprint. -/
theorem fingerprint_eq_of_copies {ds es : List String} (h : Relation.EqvGen CopyInserted ds es) :
    fingerprint ds = fingerprint es := by
  have same : ds.eraseDups = es.eraseDups := by
    induction h with
    | rel ds es h => exact h.eraseDups_eq
    | refl => rfl
    | symm ds es _ ih => exact ih.symm
    | trans ds es fs _ _ ih ih' => exact ih.trans ih'
  rw [fingerprint, fingerprint, fingerprintMessage, fingerprintMessage, same]

/-- Whatever number in the range is drawn, it is the clock sequence. -/
theorem toNat_clockSequence_ofDraw (draw : UInt64) (ds : List String) :
    (ofDraw draw ds).clockSequence.toNat =
      (Draws.pick maxClockSequence.toUInt64 draw).toNat := by
  have fits : (Draws.pick maxClockSequence.toUInt64 draw).toNat ≤ maxClockSequence.toUInt64.toNat :=
    Draws.pick_le (by decide) draw
  have width : maxClockSequence.toUInt64.toNat = 0x7fff := by decide
  rw [ofDraw, toNat_clockSequence_truncate, UInt64.toNat_toUInt16]
  omega

/-- An address that a host name has several times counts once. -/
theorem copyInserted_descriptors {name : String} {as bs : List IpAddress} {a : IpAddress}
    (known : a ∈ as) (interfaces : List HardwareAddress) :
    CopyInserted (Host.descriptors ⟨name, as ++ bs, interfaces⟩)
      (Host.descriptors ⟨name, as ++ a :: bs, interfaces⟩) := by
  let text (a : IpAddress) : String := name ++ "/" ++ a.text
  let later := bs.map text ++ name :: interfaces.map fun a => "mac " ++ a.text
  have met : text a ∈ Host.constants ++ as.map text :=
    List.mem_append_right _ (List.mem_map_of_mem known)
  have split (cs : List IpAddress) : Host.descriptors ⟨name, as ++ cs, interfaces⟩ =
      (Host.constants ++ as.map text) ++
        (cs.map text ++ name :: interfaces.map fun a => "mac " ++ a.text) := by
    simp [Host.descriptors, text]
  rw [split, split]
  exact .insert met

/-- Descriptors and a draw always give an identity. Its node is the number that the first six octets
of an MD5 digest spell, with the lowest bit set; the digest is of the descriptors in the order of
their first occurrence, and comes about descriptor after descriptor, leaving out those met before.
Putting in copies after the first, or taking such copies out, leaves the identity as it is, so an
address that a host name has again does not count. The clock sequence comes from the draw alone. -/
theorem node_of_first_occurrences (descriptors : List String) (draw : UInt64) (rest : Draws) :
    (∃ id distinct,
      (derive (.ok descriptors) (draw :: rest)).result = .ok id ∧
      (∀ texts, FirstOccurrences descriptors texts ↔ texts = distinct) ∧
      (descriptors.foldl Intake.meet .start).message =
        distinct.flatMap (fun d => d.toUTF8.data.toList) ∧
      id.node.toNat = ByteOrder.bigEndian.number ((Digest.Md5.digest
        (distinct.flatMap fun d => d.toUTF8.data.toList)).toList.take 6) ||| 1 ∧
      id.node = fingerprint descriptors ∧
      id.clockSequence.toNat = (Draws.pick maxClockSequence.toUInt64 draw).toNat) ∧
    (fingerprint descriptors).toNat < 1 <<< 48 ∧
    (∀ others, Relation.EqvGen CopyInserted descriptors others →
      (derive (.ok others) (draw :: rest)).result =
        (derive (.ok descriptors) (draw :: rest)).result) ∧
    ∀ (name : String) (as bs : List IpAddress) (interfaces : List HardwareAddress),
      ∀ a ∈ as, (deriveFromHost (.ok ⟨name, as ++ a :: bs, interfaces⟩) (draw :: rest)).result =
        (deriveFromHost (.ok ⟨name, as ++ bs, interfaces⟩) (draw :: rest)).result := by
  have copies {ds es : List String} (h : Relation.EqvGen CopyInserted ds es) :
      (derive (.ok es) (draw :: rest)).result = (derive (.ok ds) (draw :: rest)).result := by
    rw [derive_cons, derive_cons, ofDraw, ofDraw, fingerprint_eq_of_copies h]
  refine ⟨⟨ofDraw draw descriptors, descriptors.eraseDups, by rw [derive_cons], ?unique,
    Intake.message_foldl descriptors, ?node, ?whole, toNat_clockSequence_ofDraw draw descriptors⟩,
    fingerprint_lt descriptors, fun others => copies, ?host⟩
  case unique =>
    intro texts
    constructor
    · intro h
      exact h.eq (firstOccurrences_eraseDups descriptors)
    · rintro rfl
      exact firstOccurrences_eraseDups descriptors
  case node =>
    rw [toNat_node_ofDraw, toNat_fingerprint_eq_or_one, fingerprintMessage]
  case whole =>
    exact UInt64.toNat_inj.1 (toNat_node_ofDraw draw descriptors)
  case host =>
    intro name as bs interfaces a known
    exact copies (.rel _ _ (copyInserted_descriptors known interfaces))

/-- Descriptors with copies at two places, and a host name that has one address twice. -/
theorem node_of_first_occurrences_copies :
    Relation.EqvGen CopyInserted ["unix", "linux", "host", "linux"]
      ["unix", "linux", "unix", "host"] ∧
    (derive (.ok ["unix", "linux", "unix", "host"]) [7]).result =
      (derive (.ok ["unix", "linux", "host", "linux"]) [7]).result ∧
    (deriveFromHost (.ok ⟨"host", [.v4 #v[127, 0, 0, 1], .v4 #v[127, 0, 0, 1]], []⟩) [7]).result =
      (deriveFromHost (.ok ⟨"host", [.v4 #v[127, 0, 0, 1]], []⟩) [7]).result := by
  have first : CopyInserted ["unix", "linux", "host"] ["unix", "linux", "host", "linux"] :=
    @CopyInserted.insert ["unix", "linux", "host"] [] "linux" (by simp)
  have second : CopyInserted ["unix", "linux", "host"] ["unix", "linux", "unix", "host"] :=
    @CopyInserted.insert ["unix", "linux"] ["host"] "unix" (by simp)
  have copies : Relation.EqvGen CopyInserted ["unix", "linux", "host", "linux"]
      ["unix", "linux", "unix", "host"] :=
    .trans _ _ _ (.symm _ _ (.rel _ _ first)) (.rel _ _ second)
  obtain ⟨-, -, same, again⟩ :=
    node_of_first_occurrences ["unix", "linux", "host", "linux"] 7 []
  exact ⟨copies, same _ copies,
    again "host" [.v4 #v[127, 0, 0, 1]] [] [] (.v4 #v[127, 0, 0, 1]) (by simp)⟩

end UniqueId.NodeIdentity
