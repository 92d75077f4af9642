/-!
# Sorted lists

* `sorted`: the elements of a list in the order of `compare`.
-/

namespace Rulebook

/-- The elements of a list in ascending order. -/
def sorted {α : Type} [Ord α] (l : List α) : List α := l.mergeSort fun a b => (compare a b).isLE

/-- Sorting only changes the order. -/
theorem sorted_perm {α : Type} [Ord α] (l : List α) : (sorted l).Perm l := List.mergeSort_perm l _

/-- A sorted list ascends. -/
theorem sorted_pairwise {α : Type} [Ord α] [Std.TransOrd α] (l : List α) :
    (sorted l).Pairwise fun a b => (compare a b).isLE = true := by
  refine List.pairwise_mergeSort ?_ ?_ l
  · intro a b c h h'
    exact Std.TransCmp.isLE_trans h h'
  · intro a b
    rw [show compare b a = (compare a b).swap from Std.OrientedCmp.eq_swap]
    cases compare a b <;> rfl

/-- A sorted list without repetitions ascends strictly. -/
theorem sorted_ascends {α : Type} [Ord α] [Std.TransOrd α] [Std.LawfulEqOrd α] {l : List α}
    (h : l.Nodup) : (sorted l).Pairwise fun a b => compare a b = .lt := by
  refine (sorted_pairwise l).imp₂ ?_ ((sorted_perm l).nodup_iff.2 h)
  intro a b hle hne
  have heq : compare a b ≠ .eq := fun heq => hne (Std.LawfulEqOrd.eq_of_compare heq)
  cases hc : compare a b with
  | lt => rfl
  | eq => exact absurd hc heq
  | gt => rw [hc] at hle; cases hle

/-- There is one way to put the elements of a list in ascending order. -/
theorem eq_sorted {α : Type} [Ord α] [Std.TransOrd α] [Std.LawfulEqOrd α] {l m : List α}
    (hperm : m.Perm l) (hm : m.Pairwise fun a b => (compare a b).isLE = true) : m = sorted l := by
  refine (hperm.trans (sorted_perm l).symm).eq_of_pairwise ?_ hm (sorted_pairwise l)
  intro a b _ _ hab hba
  exact Std.LawfulEqOrd.eq_of_compare (Std.OrientedCmp.isLE_antisymm hab hba)

/-- The order in which the elements come does not matter for the sorted list. -/
theorem sorted_eq_of_perm {α : Type} [Ord α] [Std.TransOrd α] [Std.LawfulEqOrd α] {l l' : List α}
    (h : l.Perm l') : sorted l = sorted l' :=
  eq_sorted ((sorted_perm l).trans h) (sorted_pairwise l)

end Rulebook
