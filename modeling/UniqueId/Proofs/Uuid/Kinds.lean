import UniqueId.Uuid.Basic

/-! Kinds and version numbers. Five kinds have a number; an identifier is of such a kind exactly if
its version field holds the number, and it is nil exactly if all its bits are clear. -/
namespace UniqueId.Uuid

theorem words_injective : Function.Injective words := by
  intro u v h
  rw [← ofWords_words u, h, ofWords_words]

/-- The version number of a kind that has one. -/
def Kind.version? : Kind → Option UInt64
  | nil => none
  | timeBased => some 1
  | dceSecurity => some 2
  | namedMd5 => some 3
  | randomBased => some 4
  | namedSha1 => some 5
  | unassigned => none

theorem Kind.version?_inj {k l : Kind} {n : UInt64} (hk : k.version? = some n)
    (hl : l.version? = some n) : k = l := by
  have distinct : k.version?.isSome = true → k.version? = l.version? → k = l := by
    cases k <;> cases l <;> decide
  exact distinct (by rw [hk]; rfl) (hk.trans hl.symm)

theorem Kind.mem_of_version? {k : Kind} {n : UInt64} (h : k.version? = some n) :
    n ∈ [1, 2, 3, 4, 5] := by
  cases k <;> cases h <;> decide

theorem version_of_kind {u : Uuid} {n : UInt64} (h : u.kind.version? = some n) :
    u.version = n := by
  cases u with
  | nil => contradiction
  | timeBased v => cases h; exact v.version_eq
  | dceSecurity v => cases h; exact v.version_eq
  | namedMd5 v => cases h; exact v.version_eq
  | randomBased v => cases h; exact v.version_eq
  | namedSha1 v => cases h; exact v.version_eq
  | unassigned v => contradiction

theorem version?_kind_of_known {u : Uuid} (h : u.words.HasKnownVersion) :
    u.kind.version? = some u.version := by
  cases u with
  | nil => exact absurd h (by decide)
  | timeBased v => exact congrArg some v.version_eq.symm
  | dceSecurity v => exact congrArg some v.version_eq.symm
  | namedMd5 v => exact congrArg some v.version_eq.symm
  | randomBased v => exact congrArg some v.version_eq.symm
  | namedSha1 v => exact congrArg some v.version_eq.symm
  | unassigned v => exact absurd h v.unknown

/-- The version field decides between the kinds that have a number. -/
theorem kind_eq_iff {k : Kind} {n : UInt64} (h : k.version? = some n) (u : Uuid) :
    u.kind = k ↔ u.version = n := by
  constructor
  · rintro rfl
    exact version_of_kind h
  · rintro rfl
    exact Kind.version?_inj (version?_kind_of_known (Kind.mem_of_version? h)) h

theorem kind_eq_nil_iff (u : Uuid) : u.kind = .nil ↔ u.words = .zero := by
  constructor
  · intro h
    cases u with
    | nil => rfl
    | _ => contradiction
  · intro h
    rw [← ofWords_words u, h]
    decide

theorem exists_timeBased {u : Uuid} (h : u.version = 1) : ∃ v, u = timeBased v := by
  have hk := (kind_eq_iff (k := .timeBased) rfl u).2 h
  cases u with
  | timeBased v => exact ⟨v, rfl⟩
  | _ => contradiction

end UniqueId.Uuid
