import Rulebook.Proofs.Entry.Distinct
import Rulebook.Proofs.Graph.Build
import Rulebook.Proofs.Registry.Duplicates

/-!
# No problem is reported twice

The diagnostics of a graph are those of its entries and the errors of the registration, sorted. They
ascend strictly, because no two of them are equal: the findings on one entry differ, two entries
differ in their collection or their id, and only the registration reports duplicate ids.

* `own_nodup`: the diagnostics of all entries of a graph are not repeated.
* `reported_nodup`: neither are those with the errors of the registration.
* `diagnostics_ascend`: **the diagnostics of a graph and of its entries ascend strictly.**
-/

namespace Rulebook

open Std

section

variable (batches : List Batch) (config : BuildConfig)

/-- **The diagnostics of all entries are not repeated**: those of one are not, and two entries
differ in the collection or the id, which a diagnostic has from its entry. -/
theorem own_nodup :
    ((ContentGraph.resolveAll (.ofBatches batches) config).flatMap (·.diagnostics)).Nodup := by
  refine List.nodup_flatMap.2 ⟨?_, ?_⟩
  · intro r hr
    obtain ⟨p, -, rfl⟩ := List.mem_map.1 hr
    exact resolve_nodup _ _ _ _
  · refine (resolveAll_ascends batches config).imp_of_mem ?_
    intro r r' hr hr' hlt d hd hd'
    obtain ⟨p, -, rfl⟩ := List.mem_map.1 hr
    obtain ⟨p', -, rfl⟩ := List.mem_map.1 hr'
    rw [← ref_of_mem_resolve hd, ← ref_of_mem_resolve hd'] at hlt
    exact absurd ReflCmp.compare_self (ne_of_eq_of_ne hlt (by decide))

theorem errors_diagnostic_nodup :
    ((Registry.ofBatches batches).errors.map (·.diagnostic)).Nodup := by
  refine (errors_nodup batches).map_on ?_
  intro e he e' he' heq
  exact duplicate_inj he he' (congrArg Diagnostic.collection heq) (congrArg Diagnostic.id heq)
    (congrArg Diagnostic.message heq)

/-- **What a graph reports is not repeated**: entries do not report duplicate ids. -/
theorem reported_nodup : ((Registry.ofBatches batches).errors.map (·.diagnostic) ++
    (ContentGraph.resolveAll (.ofBatches batches) config).flatMap (·.diagnostics)).Nodup := by
  refine List.nodup_append.2 ⟨errors_diagnostic_nodup batches, own_nodup batches config, ?_⟩
  rintro d hd _ hd' rfl
  obtain ⟨e, -, rfl⟩ := List.mem_map.1 hd
  obtain ⟨r, hr, hd'⟩ := List.mem_flatMap.1 hd'
  obtain ⟨p, -, rfl⟩ := List.mem_map.1 hr
  obtain ⟨f, hf, heq⟩ := mem_resolve_iff.1 hd'
  have hkind : f.kind = .duplicateId := congrArg Diagnostic.kind heq
  exact findings_kind _ _ _ _ f hf hkind

/-- **No problem is reported twice.** The diagnostics of a graph ascend strictly, by collection, id,
field, severity, kind and message, and so no two of them are equal. So do those of each of its
entries, and of every entry that is resolved on its own. -/
theorem diagnostics_ascend :
    ((ContentGraph.build (.ofBatches batches) config).diagnostics.Pairwise
      fun a b => compare a b = .lt) ∧
    (ContentGraph.build (.ofBatches batches) config).diagnostics.Nodup ∧
    (∀ e ∈ (ContentGraph.build (.ofBatches batches) config).all,
      e.diagnostics.Pairwise fun a b => compare a b = .lt) ∧
    ∀ (e : Entry) c registry, ((e.resolve c registry config).diagnostics.Pairwise
      fun a b => compare a b = .lt) ∧ (e.resolve c registry config).diagnostics.Nodup := by
  have hnodup := reported_nodup batches config
  refine ⟨sorted_ascends hnodup, (sorted_perm _).nodup_iff.2 hnodup, ?_, ?_⟩
  · intro e he
    rw [all_build] at he
    obtain ⟨p, -, rfl⟩ := List.mem_map.1 he
    exact resolve_ascends _ _ _ _
  · intro e c registry
    exact ⟨resolve_ascends e c registry config, resolve_nodup e c registry config⟩

end

end Rulebook
