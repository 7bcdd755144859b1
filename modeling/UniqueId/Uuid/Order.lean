import UniqueId.TimeBased

/-! The order of identifiers: by version number first; among time-based identifiers by timestamp
and then by the low word, among all others by their two words. Identifiers of one kind also have an
order of their own, without the version. -/
namespace UniqueId

namespace TimeBased

instance : Ord TimeBased where
  compare a b := (compare a.timestamp b.timestamp).then (compare a.low b.low)

end TimeBased

instance : Ord DceSecurity := ⟨fun a b => compare a.toWords b.toWords⟩
instance : Ord NamedMd5 := ⟨fun a b => compare a.toWords b.toWords⟩
instance : Ord RandomBased := ⟨fun a b => compare a.toWords b.toWords⟩
instance : Ord NamedSha1 := ⟨fun a b => compare a.toWords b.toWords⟩
instance : Ord Unassigned := ⟨fun a b => compare a.toWords b.toWords⟩

namespace Uuid

instance : Ord Uuid where
  compare a b := (compare a.version b.version).then <|
    match a, b with
    | timeBased v, timeBased w => compare v w
    | _, _ => compare a.words b.words

/-- The order of the kind that two identifiers share; none if their kinds differ, or if there is
nothing to compare. -/
def compareWithinKind? : Uuid → Uuid → Option Ordering
  | timeBased v, timeBased w => some (compare v w)
  | dceSecurity v, dceSecurity w => some (compare v w)
  | namedMd5 v, namedMd5 w => some (compare v w)
  | randomBased v, randomBased w => some (compare v w)
  | namedSha1 v, namedSha1 w => some (compare v w)
  | unassigned v, unassigned w => some (compare v w)
  | _, _ => none

/-- What the order looks at, most significant first: the version number, the timestamp or else the
high word, the low word. -/
structure SortKey where
  version : UInt64
  major : UInt64
  minor : UInt64
  deriving DecidableEq, Repr

instance : Ord SortKey where
  compare a b := (compare a.version b.version).then <|
    (compare a.major b.major).then (compare a.minor b.minor)

def sortKey (u : Uuid) : SortKey :=
  match u with
  | timeBased v => ⟨u.version, v.timestamp, v.low⟩
  | _ => ⟨u.version, u.words.high, u.words.low⟩

/-- Not after. -/
def le (a b : Uuid) : Bool := (compare a b).isLE

/-- The identifiers in increasing order, equal ones side by side. -/
def sort (us : List Uuid) : List Uuid := us.mergeSort le

/-- Drops every identifier that equals the one before it. -/
def dropRepeated : List Uuid → List Uuid
  | [] => []
  | u :: us =>
    match dropRepeated us with
    | [] => [u]
    | w :: ws => if u = w then w :: ws else u :: w :: ws

/-- The different identifiers of a list in increasing order. -/
def distinct (us : List Uuid) : List Uuid := dropRepeated (sort us)

/-- The first identifier in increasing order. -/
def least? (us : List Uuid) : Option Uuid := (sort us).head?

/-- The last identifier in increasing order. -/
def greatest? (us : List Uuid) : Option Uuid := (sort us).getLast?

end Uuid
end UniqueId
