import Rulebook.Graph.Basic
import Rulebook.Proofs.Registry.Reorder

/-!
# The graph of reordered batches

A graph does not depend on the order in which batches that do not meet were registered. What it
holds comes from the table of the registry alone. Its diagnostics are sorted by an order in which
only equal ones are alike, so that the order of the errors is not seen either.

* `resolve_of_table`, `build_of_table`: what an entry and a graph read of a registry.
* `Registry.Agrees`: registries that look the same.
* `agrees_reordered`: **registries of reordered batches look the same.**
-/

namespace Rulebook

open Std

/-- Registries with the same entries resolve an entry in the same way. -/
theorem resolve_of_table {registry registry' : Registry} (h : registry.table = registry'.table)
    (e : Entry) (c : Collection) (config : BuildConfig) :
    e.resolve c registry config = e.resolve c registry' config := by
  obtain ⟨table, errors⟩ := registry
  obtain ⟨table', errors'⟩ := registry'
  cases h
  rfl

/-- **Registries with the same entries, and the same errors in some order, have the same graph.** -/
theorem build_of_table {registry registry' : Registry} (h : registry.table = registry'.table)
    (herrors : registry.errors.Perm registry'.errors) (config : BuildConfig) :
    ContentGraph.build registry config = ContentGraph.build registry' config := by
  have hresolved : ContentGraph.resolveAll registry config =
      ContentGraph.resolveAll registry' config := by
    unfold ContentGraph.resolveAll Registry.entries
    simp only [h, resolve_of_table h]
  unfold ContentGraph.build
  simp only [hresolved]
  congr 1
  exact sorted_eq_of_perm ((herrors.map _).append_right _)

/-- **Registries that look the same**: they have the same entries at the same locations, and the
same graph. -/
structure Registry.Agrees (r r' : Registry) : Prop where
  get? : ∀ c id, r.get? c id = r'.get? c id
  location? : ∀ c id, r.location? c id = r'.location? c id
  entries : r.entries = r'.entries
  graph : ∀ config, ContentGraph.build r config = ContentGraph.build r' config

theorem agrees_of_alike {d d' : Draft} (h : d.Alike d') : d.freeze.Agrees d'.freeze where
  get? c id := by
    unfold Registry.get? Draft.freeze
    rw [h.table]
  location? c id := by
    unfold Registry.location? Draft.freeze
    rw [h.table]
  entries := by
    unfold Registry.entries Draft.freeze
    rw [h.table]
  graph config := build_of_table h.table h.errors config

theorem agrees_of_reordered {batches batches' : List Batch} (h : Reordered batches batches') :
    (Registry.ofBatches batches).Agrees (.ofBatches batches') := by
  obtain ⟨moved, hmoved, rfl, horder⟩ := h
  exact agrees_of_alike (registered_alike hmoved horder {}).symm

/-- **The order of registration does not matter** for batches that do not meet: if the order of
those that have a collection or an origin in common is kept, the registry has the same entries at
the same locations, and the graph is the same. So two batches without a label can change places if
their collections differ. -/
theorem agrees_reordered :
    (∀ batches batches', Reordered batches batches' →
      (Registry.ofBatches batches).Agrees (.ofBatches batches')) ∧
    ∀ before after c c' entries entries', c ≠ c' →
      (Registry.ofBatches (before ++ .unlabelled c entries :: .unlabelled c' entries' ::
        after)).Agrees
      (.ofBatches (before ++ .unlabelled c' entries' :: .unlabelled c entries :: after)) := by
  refine ⟨fun batches batches' h => agrees_of_reordered h, ?_⟩
  intro before after c c' entries entries' hc
  refine agrees_of_reordered (reordered_swap ?_ before after)
  intro hmeets
  exact hc (unlabelled_meets hmeets).symm

/-- Two packs with one id twice, in collections of their own. -/
def pack (c : Collection) (origin : String) : Batch :=
  ⟨c, origin, [.record { id := "rope" }, .record { id := "rope" }]⟩

/-- Skills and items change places: the errors come in another order, and nothing else is seen of
it. Neither is anything where they have no label. -/
theorem agrees_reordered_packs :
    Reordered [pack .skills "core", pack .items "gear"] [pack .items "gear", pack .skills "core"] ∧
    (Registry.ofBatches [pack .skills "core", pack .items "gear"]).errors ≠
      (Registry.ofBatches [pack .items "gear", pack .skills "core"]).errors ∧
    (Registry.ofBatches [pack .skills "core", pack .items "gear"]).Agrees
      (.ofBatches [pack .items "gear", pack .skills "core"]) ∧
    (Registry.ofBatches [.unlabelled .skills [.record { id := "rope" }],
        .unlabelled .items [.record { id := "rope" }]]).Agrees
      (.ofBatches [.unlabelled .items [.record { id := "rope" }],
        .unlabelled .skills [.record { id := "rope" }]]) := by
  have hmeets : ¬ (pack .items "gear").Meets (pack .skills "core") := by
    rintro (h | h)
    · exact absurd h (by decide)
    · exact absurd h (by decide)
  have hreordered := reordered_swap hmeets [] []
  refine ⟨hreordered, ?_, agrees_reordered.1 _ _ hreordered,
    agrees_reordered.2 [] [] .skills .items _ _ (by decide)⟩
  intro herrors
  have hfirst := congrArg (fun errors : List DuplicateId => errors.map (·.collection)) herrors
  exact absurd hfirst (by decide)

end Rulebook
