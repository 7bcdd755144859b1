import UniqueId.Proofs.TimeBased.Inverse
import UniqueId.Proofs.Uuid.Kinds

/-! The order of identifiers is the lexicographic order of their keys, though it is written as a
comparison of versions and then of whatever the two kinds have in common. Different identifiers
have different keys, so the order is total and a list can be sorted in one way only. -/
namespace UniqueId
open Std

/-- A second comparison matters only where the first finds no difference. -/
theorem then_congr {o x y : Ordering} (h : o = .eq → x = y) : o.then x = o.then y := by
  cases o with
  | lt => rfl
  | eq => exact h rfl
  | gt => rfl

/-- What is compared first does not decrease. -/
theorem le_of_isLE_then {a b : UInt64} {o : Ordering} (h : ((compare a b).then o).isLE = true) :
    a ≤ b := by
  rcases Ordering.isLE_then_iff_or.1 h with hlt | ⟨heq, -⟩
  · exact UInt64.le_of_lt (compare_eq_lt.1 hlt)
  · exact compare_eq_iff_eq.1 heq ▸ UInt64.le_refl _

namespace Uuid

namespace SortKey

instance : TransOrd SortKey :=
  inferInstanceAs (TransCmp
    (compareLex (compareOn version) (compareLex (compareOn major) (compareOn minor))))

instance : LawfulEqOrd SortKey where
  eq_of_compare {a b} h := by
    obtain ⟨version, rest⟩ := Ordering.then_eq_eq.1 h
    obtain ⟨major, minor⟩ := Ordering.then_eq_eq.1 rest
    cases a
    cases b
    cases compare_eq_iff_eq.1 version
    cases compare_eq_iff_eq.1 major
    cases compare_eq_iff_eq.1 minor
    rfl

end SortKey

theorem sortKey_timeBased (v : TimeBased) : (timeBased v).sortKey = ⟨1, v.timestamp, v.low⟩ :=
  congrArg (SortKey.mk · v.timestamp v.low) v.version_eq

theorem sortKey_of_version_ne_one {u : Uuid} (h : u.version ≠ 1) :
    u.sortKey = ⟨u.version, u.words.high, u.words.low⟩ := by
  cases u with
  | timeBased v => exact absurd v.version_eq h
  | _ => rfl

theorem compare_of_version_ne_one {a b : Uuid} (h : a.version ≠ 1) :
    compare a b = (compare a.version b.version).then (compare a.words b.words) := by
  cases a with
  | timeBased v => exact absurd v.version_eq h
  | _ => rfl

theorem version_sortKey (u : Uuid) : u.sortKey.version = u.version := by cases u <;> rfl

/-- Comparing identifiers is comparing keys. -/
theorem compare_eq_compare_sortKey (a b : Uuid) : compare a b = compare a.sortKey b.sortKey := by
  by_cases ha : a.version = 1
  · by_cases hb : b.version = 1
    · obtain ⟨v, rfl⟩ := exists_timeBased ha
      obtain ⟨w, rfl⟩ := exists_timeBased hb
      rw [compare_timeBased, sortKey_timeBased, sortKey_timeBased]
      rfl
    -- the versions differ, and nothing else is looked at
    · change (compare a.version b.version).then _ =
        (compare a.sortKey.version b.sortKey.version).then _
      rw [version_sortKey, version_sortKey]
      exact then_congr fun h => absurd ((compare_eq_iff_eq.1 h).symm.trans ha) hb
  · rw [compare_of_version_ne_one ha, sortKey_of_version_ne_one ha]
    change _ = (compare a.version b.sortKey.version).then _
    rw [version_sortKey]
    apply then_congr
    intro h
    rw [sortKey_of_version_ne_one (compare_eq_iff_eq.1 h ▸ ha)]
    rfl

/-- The key loses nothing: what the timestamp leaves of the high word is the version. -/
theorem sortKey_injective : Function.Injective sortKey := by
  intro a b h
  have hv : a.version = b.version := by rw [← version_sortKey, h, version_sortKey]
  by_cases ha : a.version = 1
  · obtain ⟨v, rfl⟩ := exists_timeBased ha
    obtain ⟨w, rfl⟩ := exists_timeBased (hv ▸ ha)
    rw [sortKey_timeBased, sortKey_timeBased, SortKey.mk.injEq] at h
    exact words_injective (Words.ext (TimeBased.high_eq_of_timestamp_eq h.2.1) h.2.2)
  · rw [sortKey_of_version_ne_one ha, sortKey_of_version_ne_one (hv ▸ ha), SortKey.mk.injEq] at h
    exact words_injective (Words.ext h.2.1 h.2.2)

instance : TransOrd Uuid where
  eq_swap {a b} := by
    rw [compare_eq_compare_sortKey, compare_eq_compare_sortKey b a]
    exact OrientedCmp.eq_swap
  isLE_trans {a b c} hab hbc := by
    rw [compare_eq_compare_sortKey] at hab hbc ⊢
    exact TransCmp.isLE_trans hab hbc

instance : LawfulEqOrd Uuid where
  compare_self {a} := by
    rw [compare_eq_compare_sortKey]
    exact ReflCmp.compare_self
  eq_of_compare {a b} h := by
    rw [compare_eq_compare_sortKey] at h
    exact sortKey_injective (compare_eq_iff_eq.1 h)

theorem le_trans (a b c : Uuid) (hab : le a b = true) (hbc : le b c = true) : le a c = true :=
  TransCmp.isLE_trans hab hbc

theorem le_antisymm {a b : Uuid} (hab : le a b = true) (hba : le b a = true) : a = b :=
  compare_eq_iff_eq.1 (OrientedCmp.isLE_antisymm hab hba)

theorem le_total (a b : Uuid) : (le a b || le b a) = true := by
  rw [le, le, show compare b a = (compare a b).swap from OrientedCmp.eq_swap]
  cases compare a b <;> rfl

theorem version_le_of_le {a b : Uuid} (h : le a b = true) : a.version ≤ b.version :=
  le_of_isLE_then h

theorem timestamp_le_of_le {v w : TimeBased} (h : le (timeBased v) (timeBased w) = true) :
    v.timestamp ≤ w.timestamp := by
  rw [le, compare_timeBased] at h
  exact le_of_isLE_then h

/-- The same identifiers, none of them after a later one. -/
structure IsArrangement (us vs : List Uuid) : Prop where
  perm : vs.Perm us
  increasing : vs.Pairwise fun a b => le a b = true

theorem isArrangement_sort (us : List Uuid) : IsArrangement us (sort us) where
  perm := List.mergeSort_perm us le
  increasing := List.pairwise_mergeSort le_trans le_total us

theorem IsArrangement.eq {us vs ws : List Uuid} (hv : IsArrangement us vs)
    (hw : IsArrangement us ws) : vs = ws :=
  List.Perm.eq_of_pairwise (fun _ _ _ _ => le_antisymm) hv.increasing hw.increasing
    (hv.perm.trans hw.perm.symm)

/-- The order of identifiers is total, and finds two of them equal only if they are the same. It is
the lexicographic order of version number, timestamp or else high word, and low word. A list has
one increasing arrangement, however it was arranged before; in it equal identifiers stand together,
and so do those of one version, the versions increasing. -/
theorem compare_lawful :
    (∀ a b : Uuid, compare a b = (compare b a).swap) ∧
    (∀ a b c : Uuid, le a b = true → le b c = true → le a c = true) ∧
    (∀ a b : Uuid, compare a b = .eq ↔ a = b) ∧
    (∀ a b : Uuid, compare a b = compare a.sortKey b.sortKey) ∧
    (∀ v : TimeBased, (timeBased v).sortKey = ⟨1, v.timestamp, v.low⟩) ∧
    (∀ u : Uuid, u.version ≠ 1 → u.sortKey = ⟨u.version, u.words.high, u.words.low⟩) ∧
    (∀ us vs : List Uuid, IsArrangement us vs ↔ vs = sort us) ∧
    (∀ us vs : List Uuid, us.Perm vs → sort us = sort vs) ∧
    (∀ (us : List Uuid) (a b : Uuid), a ≠ b → ¬ [a, b, a].Sublist (sort us)) ∧
    ∀ us : List Uuid, (sort us).Pairwise fun a b => a.version ≤ b.version := by
  refine ⟨fun a b => OrientedCmp.eq_swap, le_trans, fun a b => compare_eq_iff_eq,
    compare_eq_compare_sortKey, sortKey_timeBased, fun u => sortKey_of_version_ne_one,
    ?arrangement, ?order, ?adjacent, ?blocks⟩
  case arrangement =>
    intro us vs
    constructor
    · intro h
      exact h.eq (isArrangement_sort us)
    · rintro rfl
      exact isArrangement_sort us
  case order =>
    intro us vs h
    have hv := isArrangement_sort vs
    exact (isArrangement_sort us).eq ⟨hv.perm.trans h.symm, hv.increasing⟩
  case adjacent =>
    intro us a b ne between
    have increasing := (isArrangement_sort us).increasing.sublist between
    have hab := List.rel_of_pairwise_cons increasing (List.mem_cons_self ..)
    have hba := List.rel_of_pairwise_cons increasing.tail (List.mem_cons_self ..)
    exact ne (le_antisymm hab hba)
  case blocks =>
    intro us
    exact (isArrangement_sort us).increasing.imp version_le_of_le

/-! The words of `early` are the greater ones, but its timestamp is the smaller one. -/
namespace Crossing

def early : Uuid := ofWords ⟨0xffffffff00001000, 0x8000000000000000⟩
def late : Uuid := ofWords ⟨0x0000000000011000, 0x8000000000000000⟩
def named : Uuid := ofWords ⟨0x0000000000003000, 0x8000000000000000⟩

theorem compare_lawful_crossing :
    le early named = true ∧ named.sortKey = ⟨3, 0x3000, 0x8000000000000000⟩ ∧
    [early, late, named] = sort [late, named, early] ∧
    sort [late, named, early] = sort [named, early, late] ∧
    ¬ [early, late, early].Sublist (sort [early, late, early]) := by
  obtain ⟨-, trans, -, -, -, key, arrangement, order, adjacent, -⟩ := compare_lawful
  exact ⟨trans early late named (by decide) (by decide), key named (by decide),
    (arrangement _ _).1 ⟨by decide, by decide⟩, order _ _ (by decide),
    adjacent _ _ _ (by decide)⟩

end Crossing
end Uuid
end UniqueId
