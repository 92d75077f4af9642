import Rulebook.Graph.Basic
import Rulebook.Proofs.Ascending
import Rulebook.Proofs.Registry.Offers

/-!
# How a graph is built

A graph is filled with resolved entries under their own collections and ids. A registry holds each
entry under its own id, so these are the references of the registry: none of them comes twice, and
no entry takes the place of another one.

* `resolveAll_ascends`: resolved entries come by collection and id, each one once.
* `all_build`, `get?_build`: **a graph lists and holds the entries of its registry, resolved.**
-/

namespace Rulebook

open Std

/-- A resolved entry is found under the reference that the registry holds it under. -/
theorem ref_of_mem_entries {batches : List Batch} {config : BuildConfig} {ref : Reference}
    {e : Entry} (h : (ref, e) ∈ (Registry.ofBatches batches).entries) (registry : Registry) :
    (e.resolve ref.collection registry config).ref = ref := by
  obtain ⟨c, id⟩ := ref
  have hid : e.id = id := id_of_get? (mem_entries_iff.1 h)
  show (⟨c, e.id⟩ : Reference) = ⟨c, id⟩
  rw [hid]

section

variable (batches : List Batch) (config : BuildConfig)

/-- Resolved entries have the references that the registry holds them under. -/
theorem resolveAll_refs :
    (ContentGraph.resolveAll (.ofBatches batches) config).map (·.ref) =
      (Registry.ofBatches batches).entries.map (·.1) := by
  unfold ContentGraph.resolveAll
  rw [List.map_map]
  refine List.map_congr_left ?_
  rintro ⟨ref, e⟩ hp
  exact ref_of_mem_entries hp _

/-- **Resolved entries come by collection and id, each one once.** -/
theorem resolveAll_ascends : (ContentGraph.resolveAll (.ofBatches batches) config).Pairwise
    fun a b => compare a.ref b.ref = .lt := by
  have hrefs : ((ContentGraph.resolveAll (.ofBatches batches) config).map (·.ref)).Pairwise
      fun a b => compare a b = .lt := by
    rw [resolveAll_refs, List.pairwise_map]
    exact entries_ascend _
  exact List.pairwise_map.1 hrefs

theorem resolveAll_keys_ascend :
    ((ContentGraph.resolveAll (.ofBatches batches) config).map fun e => (e.ref, e)).Pairwise
      fun a b => compare a.1 b.1 = .lt :=
  List.pairwise_map.2 (resolveAll_ascends batches config)

/-- **A graph lists the entries of its registry**, resolved. -/
theorem all_build : (ContentGraph.build (.ofBatches batches) config).all =
    ContentGraph.resolveAll (.ofBatches batches) config := by
  show (ExtTreeMap.ofList ((ContentGraph.resolveAll _ config).map fun e => (e.ref, e))).values = _
  rw [values_ofList (resolveAll_keys_ascend batches config), List.map_map]
  exact List.map_id _

/-- **A graph holds the entries of its registry**, resolved. -/
theorem get?_build (c : Collection) (id : String) :
    (ContentGraph.build (.ofBatches batches) config).get? c id =
      ((Registry.ofBatches batches).get? c id).map
        (·.resolve c (.ofBatches batches) config) := by
  have hkeys := nodup_of_ascends (List.pairwise_map.2 (resolveAll_keys_ascend batches config))
  refine Option.ext fun r => ?_
  show (ExtTreeMap.ofList ((ContentGraph.resolveAll _ config).map fun e => (e.ref, e))).get?
    ⟨c, id⟩ = some r ↔ _
  rw [ExtTreeMap.get?_eq_getElem?, ofList_getElem?_iff hkeys, Option.map_eq_some_iff, List.mem_map]
  constructor
  · rintro ⟨_, hr, heq⟩
    obtain ⟨⟨ref, e⟩, he, rfl⟩ := List.mem_map.1 hr
    obtain ⟨href, rfl⟩ := Prod.mk.inj heq
    rw [ref_of_mem_entries he] at href
    cases href
    exact ⟨e, mem_entries_iff.1 he, rfl⟩
  · rintro ⟨e, hget, rfl⟩
    have he : (⟨c, id⟩, e) ∈ (Registry.ofBatches batches).entries := mem_entries_iff.2 hget
    exact ⟨_, List.mem_map.2 ⟨_, he, rfl⟩, Prod.ext (ref_of_mem_entries he _) rfl⟩

end

end Rulebook
