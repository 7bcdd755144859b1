import UniqueId.Proofs.Uuid.Ordering
import UniqueId.Uuid.Namespace

/-! The order that a kind of identifiers has of its own, beside the order of all identifiers. The
two agree as long as the version numbers do, so five kinds keep their order, also when they are
sorted. The sixth holds identifiers of eleven versions, and its own order leaves the version out. -/
namespace UniqueId
open Std

namespace Words

instance : TransOrd Words :=
  inferInstanceAs (TransCmp (compareLex (compareOn high) (compareOn low)))

instance : LawfulEqOrd Words where
  eq_of_compare h := by
    obtain ⟨high, low⟩ := Ordering.then_eq_eq.1 h
    exact Words.ext (Std.compare_eq_iff_eq.1 high) (Std.compare_eq_iff_eq.1 low)

end Words

namespace Unassigned

theorem toWords_injective : Function.Injective toWords := by
  rintro ⟨v, -, -⟩ ⟨w, -, -⟩ rfl
  rfl

instance : TransOrd Unassigned :=
  inferInstanceAs (TransCmp (compareOn toWords))

instance : LawfulEqOrd Unassigned where
  eq_of_compare h := toWords_injective (Std.compare_eq_iff_eq.1 h)

end Unassigned

namespace Uuid

theorem compare_of_version_eq {a b : Uuid} (ne_one : a.version ≠ 1) (h : a.version = b.version) :
    compare a b = compare a.words b.words := by
  rw [compare_of_version_ne_one ne_one, Std.compare_eq_iff_eq.2 h]
  rfl

section
variable {α : Type} [Ord α]

/-- Identifiers of one kind, given without it, in increasing order. -/
def sortWithin (vs : List α) : List α := vs.mergeSort fun v w => (compare v w).isLE

/-- A kind whose own order is that of all identifiers, also for sorting. -/
structure KeepsOrder (wrap : α → Uuid) : Prop where
  compare_eq (v w : α) : compare (wrap v) (wrap w) = compare v w
  sort_eq (vs : List α) : sort (vs.map wrap) = (sortWithin vs).map wrap

variable {wrap : α → Uuid}

theorem sort_map_of_agree {vs : List α}
    (h : ∀ v ∈ vs, ∀ w ∈ vs, compare (wrap v) (wrap w) = compare v w) :
    sort (vs.map wrap) = (sortWithin vs).map wrap := by
  refine (List.map_mergeSort ?_).symm
  intro v hv w hw
  rw [le, h v hv w hw]

theorem KeepsOrder.of_compare (h : ∀ v w, compare (wrap v) (wrap w) = compare v w) :
    KeepsOrder wrap where
  compare_eq := h
  sort_eq _ := sort_map_of_agree fun v _ w _ => h v w

theorem compare_eq_lt_of_isLE [LawfulEqOrd α] {v w : α} (h : (compare v w).isLE = true)
    (ne : v ≠ w) : compare v w = .lt := by
  cases hc : compare v w with
  | lt => rfl
  | eq => exact absurd (Std.compare_eq_iff_eq.1 hc) ne
  | gt =>
    rw [hc] at h
    contradiction

theorem agree_symm [OrientedOrd α] {v w : α} (h : compare (wrap v) (wrap w) = compare v w) :
    compare (wrap w) (wrap v) = compare w v :=
  calc compare (wrap w) (wrap v) = (compare (wrap v) (wrap w)).swap := OrientedCmp.eq_swap
    _ = (compare v w).swap := by rw [h]
    _ = compare w v := OrientedCmp.eq_swap.symm

theorem pairwise_sortWithin [TransOrd α] (vs : List α) :
    (sortWithin vs).Pairwise fun v w => (compare v w).isLE = true := by
  refine List.pairwise_mergeSort (fun _ _ _ => TransCmp.isLE_trans) ?_ vs
  intro v w
  rw [show compare w v = (compare v w).swap from OrientedCmp.eq_swap]
  cases compare v w <;> rfl

/-- Sorting commutes with wrapping for no other lists than those in which the orders agree. -/
theorem sort_map_eq_iff [TransOrd α] [LawfulEqOrd α] (inj : Function.Injective wrap)
    (vs : List α) :
    sort (vs.map wrap) = (sortWithin vs).map wrap ↔
      ∀ v ∈ vs, ∀ w ∈ vs, compare (wrap v) (wrap w) = compare v w := by
  refine ⟨fun same => ?_, sort_map_of_agree⟩
  have among : (sortWithin vs).Pairwise fun v w => le (wrap v) (wrap w) = true := by
    have increasing := (isArrangement_sort (vs.map wrap)).increasing
    rwa [same, List.pairwise_map] at increasing
  -- of two members of the sorted list neither order puts the later one first
  have agree : (sortWithin vs).Pairwise fun v w => compare (wrap v) (wrap w) = compare v w := by
    refine ((pairwise_sortWithin vs).and among).imp ?_
    rintro v w ⟨hvw, hwrap⟩
    by_cases eq : v = w
    · rw [eq, compare_self, compare_self]
    · rw [compare_eq_lt_of_isLE hvw eq, compare_eq_lt_of_isLE hwrap (inj.ne eq)]
  have all := agree.forall_of_forall_of_flip
    (fun v _ => by rw [compare_self, compare_self]) (agree.imp agree_symm)
  intro v hv w hw
  exact all (List.mem_mergeSort.2 hv) (List.mem_mergeSort.2 hw)

/-- Where a version other than the first is common to a kind, only the words are left to compare. -/
theorem KeepsOrder.of_version {n : UInt64} (ne_one : n ≠ 1) (version_eq : ∀ v, (wrap v).version = n)
    (words_eq : ∀ v w, compare v w = compare (wrap v).words (wrap w).words) : KeepsOrder wrap := by
  refine .of_compare fun v w => ?_
  rw [words_eq, compare_of_version_eq (version_eq v ▸ ne_one)
    ((version_eq v).trans (version_eq w).symm)]

end

theorem keepsOrder_timeBased : KeepsOrder timeBased := .of_compare compare_timeBased

theorem compare_unassigned (v w : Unassigned) :
    compare (unassigned v) (unassigned w) =
      (compare v.version w.version).then (compare v w) := rfl

theorem then_eq_right_iff {o p : Ordering} : o.then p = p ↔ o = .eq ∨ o = p := by
  cases o <;> cases p <;> decide

theorem compare_unassigned_eq_iff (v w : Unassigned) :
    compare (unassigned v) (unassigned w) = compare v w ↔
      v.version = w.version ∨ compare v.version w.version = compare v w := by
  rw [compare_unassigned, then_eq_right_iff, Std.compare_eq_iff_eq]

theorem unassigned_injective : Function.Injective unassigned := fun _ _ h => by injection h

/-- Comparing identifiers of one kind is comparing them as identifiers, and sorting them can be done
before or after, for each of the five kinds that have a version number of their own. Identifiers of
the versions that are left compare alike in both ways exactly if their versions are equal or stand
in the order of the words, and they sort alike exactly if all of them compare alike. -/
theorem kinds_keep_order :
    KeepsOrder timeBased ∧ KeepsOrder dceSecurity ∧ KeepsOrder namedMd5 ∧
    KeepsOrder randomBased ∧ KeepsOrder namedSha1 ∧
    (∀ v w : Unassigned, compare (unassigned v) (unassigned w) = compare v w ↔
      v.version = w.version ∨ compare v.version w.version = compare v w) ∧
    ∀ vs : List Unassigned, sort (vs.map unassigned) = (sortWithin vs).map unassigned ↔
      ∀ v ∈ vs, ∀ w ∈ vs,
        v.version = w.version ∨ compare v.version w.version = compare v w := by
  refine ⟨keepsOrder_timeBased,
    .of_version (n := 2) (by decide) (fun v => v.version_eq) fun _ _ => rfl,
    .of_version (n := 3) (by decide) (fun v => v.version_eq) fun _ _ => rfl,
    .of_version (n := 4) (by decide) (fun v => v.version_eq) fun _ _ => rfl,
    .of_version (n := 5) (by decide) (fun v => v.version_eq) fun _ _ => rfl,
    compare_unassigned_eq_iff, fun vs => ?_⟩
  simp only [sort_map_eq_iff unassigned_injective, compare_unassigned_eq_iff]

/-! Identifiers of versions 0, 6 and 6. The words of the first are the greatest. -/
namespace Mixed

def zeroth : Unassigned := ⟨⟨0x0000000100000000, 0⟩, by decide, by decide⟩
def sixth : Unassigned := ⟨⟨0x0000000000006000, 0⟩, by decide, by decide⟩
def sixthNext : Unassigned := ⟨⟨0x0000000000006000, 1⟩, by decide, by decide⟩

/-- Time-based identifiers whose words stand the other way round than their timestamps, and
identifiers of one version without a kind. -/
theorem kinds_keep_order_crossing :
    compare (timeBased Namespace.x500) (timeBased (.mint (.truncate 0 0) 0x1d2000000000000)) =
      compare Namespace.x500 (.mint (.truncate 0 0) 0x1d2000000000000) ∧
    compare (unassigned sixth) (unassigned sixthNext) = compare sixth sixthNext ∧
    sort ([sixthNext, sixth].map unassigned) = (sortWithin [sixthNext, sixth]).map unassigned := by
  obtain ⟨timeBased, -, -, -, -, unassigned, lists⟩ := kinds_keep_order
  exact ⟨timeBased.compare_eq _ _, (unassigned _ _).2 (.inl (by decide)), (lists _).2 (by decide)⟩

/-- The order of all identifiers looks at the versions first, the order within the kind never. -/
theorem unassigned_order_differs :
    compare (unassigned zeroth) (unassigned sixth) = .lt ∧ compare zeroth sixth = .gt ∧
    sort ([zeroth, sixth].map unassigned) ≠ (sortWithin [zeroth, sixth]).map unassigned := by
  refine ⟨by decide, by decide, fun same => ?_⟩
  have agree := (sort_map_eq_iff unassigned_injective _).1 same zeroth (by decide) sixth (by decide)
  exact absurd agree (by decide)

end Mixed
end Uuid
end UniqueId
