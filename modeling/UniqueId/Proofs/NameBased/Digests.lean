import UniqueId.NameBased
import UniqueId.Proofs.Uuid.Kinds
import UniqueId.Proofs.Uuid.RoundTrip
import UniqueId.Proofs.Words.Stamps

/-! Identifiers of names. Such an identifier is the front of a digest, of which the version and the
variant take six bits and nothing else does. Namespace and name are told apart in what is hashed, so
two names have one identifier only where their digests meet. -/
namespace UniqueId

/-- A namespace takes sixteen octets, so what is hashed shows where the name begins. -/
theorem nameMessage_inj {space other : Uuid} {name title : List UInt8} :
    nameMessage space name = nameMessage other title ↔ space = other ∧ name = title := by
  constructor
  · intro h
    obtain ⟨spaces, names⟩ := List.append_inj h (by simp)
    have octets : space.words.toOctets = other.words.toOctets := Vector.toList_inj.1 spaces
    exact ⟨Uuid.words_injective (Words.toOctets_injective octets), names⟩
  · rintro ⟨rfl, rfl⟩
    rfl

theorem ofOctets_eq_halves (o : Octets) :
    Words.ofOctets o = Uuid.halves (ByteOrder.bigEndian.number o.toList) := by
  rw [Words.ofOctets, Octets.toNumber_eq, Uuid.ofNumber_ofNat]

/-- The digests under which names are hashed. -/
inductive NameDigest where
  | md5
  | sha1
  deriving DecidableEq, Repr

namespace NameDigest

/-- The version number of the identifiers made by a digest. -/
def version : NameDigest → UInt64
  | md5 => 3
  | sha1 => 5

def kind : NameDigest → Uuid.Kind
  | md5 => .namedMd5
  | sha1 => .namedSha1

/-- The octets of the digest of a message, of which there are sixteen or more. -/
def octets (h : NameDigest) (message : List UInt8) : List UInt8 :=
  match h with
  | md5 => (Digest.Md5.digest message).toList
  | sha1 => (Digest.Sha1.digest message).toList

/-- The words that the first sixteen octets of the digest of a message spell. -/
def front (h : NameDigest) (message : List UInt8) : Words :=
  Uuid.halves (ByteOrder.bigEndian.number ((h.octets message).take 16))

/-- The identifier of a name in a namespace. -/
def ofName (h : NameDigest) (space : Uuid) (name : List UInt8) : Uuid :=
  match h with
  | md5 => .namedMd5 (.ofName space name)
  | sha1 => .namedSha1 (.ofName space name)

theorem words_ofName (h : NameDigest) (space : Uuid) (name : List UInt8) :
    (h.ofName space name).words = (h.front (nameMessage space name)).stamp h.version := by
  cases h with
  | md5 =>
    have all : (Digest.Md5.digest (nameMessage space name)).toList.length ≤ 16 := by simp
    rw [front, octets, List.take_of_length_le all, ← ofOctets_eq_halves]
    rfl
  | sha1 =>
    rw [front, octets, ← Vector.toList_take, ← ofOctets_eq_halves]
    rfl

theorem kind_ofName (h : NameDigest) (space : Uuid) (name : List UInt8) :
    (h.ofName space name).kind = h.kind := by
  cases h <;> rfl

theorem version_ofName (h : NameDigest) (space : Uuid) (name : List UInt8) :
    (h.ofName space name).version = h.version := by
  apply Uuid.version_of_kind
  rw [kind_ofName]
  cases h <;> rfl

/-- The identifier of a name in a namespace has the bits that the digest of the two begins with, but
for its version number and the two bits of the variant, and it is read back from its text. What is
hashed determines namespace and name, and two names have the same identifier just if their digests
agree in the first 128 bits but those six. -/
theorem stamps_front (h : NameDigest) (space : Uuid) (name : List UInt8) :
    (h.ofName space name).words.unstamped =
      (h.front (space.words.toOctets.toList ++ name)).unstamped ∧
    ((h.ofName space name).words.high.toNat >>> 12) % (1 <<< 4) = h.version.toNat ∧
    (h.ofName space name).words.low.toNat >>> 62 = 0b10 ∧
    (h.ofName space name).kind = h.kind ∧
    (h.ofName space name).version = h.version ∧
    (h.ofName space name).variant = .standard ∧
    Uuid.parse (h.ofName space name).encode = .ok (h.ofName space name) ∧
    ∀ (other : Uuid) (title : List UInt8),
      (nameMessage space name = nameMessage other title ↔ space = other ∧ name = title) ∧
      (h.ofName space name = h.ofName other title ↔
        (h.front (nameMessage space name)).unstamped =
          (h.front (nameMessage other title)).unstamped) := by
  have words := h.words_ofName space name
  have version := h.version_ofName space name
  refine ⟨?bits, ?digit, ?top, h.kind_ofName space name, version, ?variant,
    Uuid.parse_encode _, fun other title => ⟨nameMessage_inj, ?same⟩⟩
  case bits =>
    rw [words, Words.unstamped_stamp, nameMessage]
  case digit =>
    rw [← Words.toNat_version, ← version, Uuid.version]
  case top =>
    rw [words, Words.toNat_low_stamp]
  case variant =>
    rw [Uuid.variant, words, Words.variant_stamp]
  case same =>
    rw [← Words.stamp_eq_stamp_iff h.version, ← words, ← h.words_ofName other title]
    exact Uuid.words_injective.eq_iff.symm

end NameDigest
end UniqueId
