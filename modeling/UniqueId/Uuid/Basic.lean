import UniqueId.Words

/-! Identifiers classified by their version number. Each kind carries its 128 bits together with
the fact that the version field holds the number of the kind, so the kind of an identifier can
never disagree with its bits: `ofWords` and `Uuid.words` are inverse to each other. -/
namespace UniqueId

/-- Minted from a timestamp and a node identity. -/
structure TimeBased extends Words where
  version_eq : toWords.version = 1
  deriving DecidableEq, Repr

/-- A time-based identifier that embeds a local user or group number. -/
structure DceSecurity extends Words where
  version_eq : toWords.version = 2
  deriving DecidableEq, Repr

/-- Made from a name by MD5. -/
structure NamedMd5 extends Words where
  version_eq : toWords.version = 3
  deriving DecidableEq, Repr

/-- Made from random bits. -/
structure RandomBased extends Words where
  version_eq : toWords.version = 4
  deriving DecidableEq, Repr

/-- Made from a name by SHA-1. -/
structure NamedSha1 extends Words where
  version_eq : toWords.version = 5
  deriving DecidableEq, Repr

/-- The version number is one of those that name a kind. -/
def Words.HasKnownVersion (w : Words) : Prop := w.version ∈ [1, 2, 3, 4, 5]

instance (w : Words) : Decidable w.HasKnownVersion := inferInstanceAs (Decidable (_ ∈ _))

/-- Bits that are not all clear and whose version number names no kind. -/
structure Unassigned extends Words where
  ne_zero : toWords ≠ Words.zero
  unknown : ¬ toWords.HasKnownVersion
  deriving DecidableEq, Repr

/-- A universally unique identifier. -/
inductive Uuid where
  | nil
  | timeBased (v : TimeBased)
  | dceSecurity (v : DceSecurity)
  | namedMd5 (v : NamedMd5)
  | randomBased (v : RandomBased)
  | namedSha1 (v : NamedSha1)
  | unassigned (v : Unassigned)
  deriving DecidableEq, Repr, Inhabited

namespace Uuid

instance : Coe TimeBased Uuid := ⟨timeBased⟩
instance : Coe NamedMd5 Uuid := ⟨namedMd5⟩
instance : Coe RandomBased Uuid := ⟨randomBased⟩
instance : Coe NamedSha1 Uuid := ⟨namedSha1⟩

/-- The kinds of identifiers, without their bits. -/
inductive Kind where
  | nil | timeBased | dceSecurity | namedMd5 | randomBased | namedSha1 | unassigned
  deriving DecidableEq, Repr

def kind : Uuid → Kind
  | nil => .nil
  | timeBased _ => .timeBased
  | dceSecurity _ => .dceSecurity
  | namedMd5 _ => .namedMd5
  | randomBased _ => .randomBased
  | namedSha1 _ => .namedSha1
  | unassigned _ => .unassigned

/-- The 128 bits of an identifier. -/
def words : Uuid → Words
  | nil => Words.zero
  | timeBased v => v.toWords
  | dceSecurity v => v.toWords
  | namedMd5 v => v.toWords
  | randomBased v => v.toWords
  | namedSha1 v => v.toWords
  | unassigned v => v.toWords

/-- The identifier with the given bits. -/
def ofWords (w : Words) : Uuid :=
  if h₁ : w.version = 1 then timeBased ⟨w, h₁⟩
  else if h₂ : w.version = 2 then dceSecurity ⟨w, h₂⟩
  else if h₃ : w.version = 3 then namedMd5 ⟨w, h₃⟩
  else if h₄ : w.version = 4 then randomBased ⟨w, h₄⟩
  else if h₅ : w.version = 5 then namedSha1 ⟨w, h₅⟩
  else if h₀ : w = Words.zero then nil
  else unassigned ⟨w, h₀, by simp [Words.HasKnownVersion, h₁, h₂, h₃, h₄, h₅]⟩

def version (u : Uuid) : UInt64 := u.words.version

def variant (u : Uuid) : Variant := u.words.variant

def isNil (u : Uuid) : Bool := u.kind = .nil

def isTimeBased (u : Uuid) : Bool := u.kind = .timeBased

def isDceSecurity (u : Uuid) : Bool := u.kind = .dceSecurity

def isNamedMd5 (u : Uuid) : Bool := u.kind = .namedMd5

def isRandomBased (u : Uuid) : Bool := u.kind = .randomBased

def isNamedSha1 (u : Uuid) : Bool := u.kind = .namedSha1

def asTimeBased? : Uuid → Option TimeBased
  | timeBased v => some v
  | _ => none

def asDceSecurity? : Uuid → Option DceSecurity
  | dceSecurity v => some v
  | _ => none

def asNamedMd5? : Uuid → Option NamedMd5
  | namedMd5 v => some v
  | _ => none

def asRandomBased? : Uuid → Option RandomBased
  | randomBased v => some v
  | _ => none

def asNamedSha1? : Uuid → Option NamedSha1
  | namedSha1 v => some v
  | _ => none

@[simp] theorem words_ofWords (w : Words) : (ofWords w).words = w := by
  unfold ofWords
  repeat' split
  all_goals simp_all [words]

/-- An identifier is known by its bits. -/
@[simp] theorem ofWords_words (u : Uuid) : ofWords u.words = u := by
  cases u with
  | nil => decide
  | timeBased v => simp [words, ofWords, v.version_eq]
  | dceSecurity v => simp [words, ofWords, v.version_eq]
  | namedMd5 v => simp [words, ofWords, v.version_eq]
  | randomBased v => simp [words, ofWords, v.version_eq]
  | namedSha1 v => simp [words, ofWords, v.version_eq]
  | unassigned v =>
    have h := v.unknown
    simp [Words.HasKnownVersion] at h
    simp [words, ofWords, h, v.ne_zero]

end Uuid
end UniqueId
