import Std.Data.ExtTreeMap
import Mathlib.Data.List.Sort

/-!
# Ascending lists

A list that ascends strictly is determined by what is in it. A map keeps the last value for each
key that is put into it, so a list with ascending keys comes back from its map as it was.

* `sublist_of_ascends`, `eq_of_ascends`: **ascending lists are compared by their elements.**
* `ofList_getElem?_iff`: a map of different keys holds the pairs of the list.
* `toList_ofList`, `values_ofList`: **a list with ascending keys is the list of its map.**
-/

namespace Rulebook

open Std

variable {α β : Type} [Ord α]

theorem nodup_of_ascends [TransOrd α] {l : List α} (h : l.Pairwise fun a b => compare a b = .lt) :
    l.Nodup := by
  refine h.imp ?_
  rintro a b hlt rfl
  have heq : compare a a = .eq := ReflCmp.compare_self
  rw [heq] at hlt
  cases hlt

/-- **An ascending list is part of another one** that has all of its elements. -/
theorem sublist_of_ascends [TransOrd α] {l l' : List α}
    (h : l.Pairwise fun a b => compare a b = .lt) (h' : l'.Pairwise fun a b => compare a b = .lt)
    (hmem : ∀ a ∈ l, a ∈ l') : l.Sublist l' := by
  have hanti : Antisymm fun a b : α => compare a b = .lt := ⟨fun a b hab hba =>
    absurd hba (OrientedCmp.not_lt_of_lt hab)⟩
  exact List.sublist_of_subperm_of_pairwise (List.subperm_of_subset (nodup_of_ascends h) hmem) h h'

/-- **Ascending lists with the same elements are equal.** -/
theorem eq_of_ascends [TransOrd α] {l l' : List α}
    (h : l.Pairwise fun a b => compare a b = .lt) (h' : l'.Pairwise fun a b => compare a b = .lt)
    (hmem : ∀ a, a ∈ l ↔ a ∈ l') : l = l' :=
  (sublist_of_ascends h h' fun a => (hmem a).1).antisymm
    (sublist_of_ascends h' h fun a => (hmem a).2)

/-! ## Maps -/

theorem values_eq_map [TransOrd α] (t : ExtTreeMap α β) : t.values = t.toList.map (·.2) := by
  obtain ⟨t⟩ := t
  induction t using ExtDTreeMap.inductionOn with
  | mk m =>
    show m.inner.values = (DTreeMap.Internal.Impl.Const.toList m.inner).map (·.2)
    rw [DTreeMap.Internal.Impl.values_eq_map_snd,
      DTreeMap.Internal.Impl.Const.toList_eq_toListModel_map, List.map_map]
    rfl

/-- Keys that are not repeated are different for the order as well. -/
theorem distinct_of_nodup [LawfulEqOrd α] {l : List (α × β)} (h : (l.map (·.1)).Nodup) :
    l.Pairwise fun a b => ¬ compare a.1 b.1 = .eq := by
  refine (List.pairwise_map.1 h).imp ?_
  intro a b hne heq
  exact hne (LawfulEqOrd.eq_of_compare heq)

variable [TransOrd α] [LawfulEqOrd α] [DecidableEq α]

/-- **No value is lost where the keys differ.** -/
theorem ofList_getElem?_iff {l : List (α × β)} (h : (l.map (·.1)).Nodup) {k : α} {v : β} :
    (ExtTreeMap.ofList l)[k]? = some v ↔ (k, v) ∈ l := by
  have hdistinct := distinct_of_nodup h
  constructor
  · intro hv
    have hk : k ∈ ExtTreeMap.ofList l := by
      rw [ExtTreeMap.mem_iff_isSome_getElem?, hv]
      rfl
    -- the key comes from the list, with one value only
    rw [ExtTreeMap.mem_ofList, List.contains_iff_mem] at hk
    obtain ⟨⟨k', v'⟩, hmem, rfl⟩ := List.mem_map.1 hk
    rw [ExtTreeMap.getElem?_ofList_of_mem ReflCmp.compare_self hdistinct hmem] at hv
    cases hv
    exact hmem
  · intro hmem
    exact ExtTreeMap.getElem?_ofList_of_mem ReflCmp.compare_self hdistinct hmem

/-- **A list with ascending keys is the list of its map.** -/
theorem toList_ofList {l : List (α × β)} (h : l.Pairwise fun a b => compare a.1 b.1 = .lt) :
    (ExtTreeMap.ofList l).toList = l := by
  have hkeys : (l.map (·.1)).Nodup := nodup_of_ascends (List.pairwise_map.2 h)
  have hlist : ((ExtTreeMap.ofList l).toList.map (·.1)).Nodup :=
    nodup_of_ascends (List.pairwise_map.2 ExtTreeMap.ordered_keys_toList)
  have hperm : (ExtTreeMap.ofList l).toList.Perm l := by
    refine (List.perm_ext_iff_of_nodup (.of_map _ hlist) (.of_map _ hkeys)).2 ?_
    rintro ⟨k, v⟩
    rw [ExtTreeMap.mem_toList_iff_getElem?_eq_some, ofList_getElem?_iff hkeys]
  refine hperm.eq_of_pairwise ?_ ExtTreeMap.ordered_keys_toList h
  intro a b _ _ hab hba
  exact absurd hba (OrientedCmp.not_lt_of_lt hab)

theorem values_ofList {l : List (α × β)} (h : l.Pairwise fun a b => compare a.1 b.1 = .lt) :
    (ExtTreeMap.ofList l).values = l.map (·.2) := by
  rw [values_eq_map, toList_ofList h]

end Rulebook
