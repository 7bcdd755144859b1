import UniqueId.Digest.Md5
import UniqueId.Digest.Sha1
import UniqueId.Uuid.Basic
import UniqueId.Words.Octets

/-! Name-based identifiers. A namespace and a name are hashed together; the first sixteen octets of
the digest become the identifier, with six bits replaced by the version and the variant. -/
namespace UniqueId

/-- What is hashed for a name in a namespace. -/
def nameMessage (space : Uuid) (name : List UInt8) : List UInt8 :=
  space.words.toOctets.toList ++ name

/-- The bits of sixteen octets of a digest under the given version number. -/
def stampDigest (version : UInt64) (o : Octets) : Words :=
  ((Words.ofOctets o).withVersion version).withStandardVariant

theorem version_stampDigest (version : UInt64) (o : Octets) :
    (stampDigest version o).version = version &&& 0xf := by
  rw [stampDigest, Words.version_withStandardVariant, Words.version_withVersion]

/-- The identifier of a name in a namespace, by MD5. -/
def NamedMd5.ofName (space : Uuid) (name : List UInt8) : NamedMd5 where
  toWords := stampDigest 3 (Digest.Md5.digest (nameMessage space name))
  version_eq := by rw [version_stampDigest]; decide

/-- The identifier of a name in a namespace, by SHA-1. -/
def NamedSha1.ofName (space : Uuid) (name : List UInt8) : NamedSha1 where
  toWords := stampDigest 5 ((Digest.Sha1.digest (nameMessage space name)).take 16)
  version_eq := by rw [version_stampDigest]; decide

end UniqueId
