import Rulebook.Proofs.Entry.Lookup
import Rulebook.Proofs.Graph.Distinct

/-!
# Every entry reaches the graph

Nothing is lost between a registry and its graph: neither an entry, however much is wrong with it,
nor a diagnostic.

* `mem_diagnostics_iff`: a graph reports the errors of the registration and what its entries report.
* `ContentGraph.Covers`: a graph that has all of its registry.
* `build_covers`: **a graph covers its registry**, and if it has no errors then no id was offered
  twice and every entry is fit for use.
-/

namespace Rulebook

open Std

section

variable (batches : List Batch) (config : BuildConfig)

/-- **A graph reports** the errors of the registration and what its entries report. -/
theorem mem_diagnostics_iff {d : Diagnostic} :
    d ∈ (ContentGraph.build (.ofBatches batches) config).diagnostics ↔
      (∃ e ∈ (Registry.ofBatches batches).errors, e.diagnostic = d) ∨
        ∃ r, (ContentGraph.build (.ofBatches batches) config).get? d.collection d.id = some r ∧
          d ∈ r.diagnostics := by
  show d ∈ sorted _ ↔ _
  rw [(sorted_perm _).mem_iff, List.mem_append, List.mem_map, List.mem_flatMap]
  refine or_congr_right ⟨?_, ?_⟩
  · rintro ⟨r, hr, hd⟩
    obtain ⟨⟨ref, e⟩, he, rfl⟩ := List.mem_map.1 hr
    have href : (⟨d.collection, d.id⟩ : Reference) = ref := by
      rw [ref_of_mem_resolve hd, ref_of_mem_entries he]
    cases href
    exact ⟨_, by rw [get?_build, mem_entries_iff.1 he]; rfl, hd⟩
  · rintro ⟨r, hr, hd⟩
    rw [get?_build] at hr
    obtain ⟨e, he, rfl⟩ := Option.map_eq_some_iff.1 hr
    exact ⟨_, List.mem_map.2 ⟨(⟨d.collection, d.id⟩, e), mem_entries_iff.2 he, rfl⟩, hd⟩

theorem diagnostics_build_ascend :
    (ContentGraph.build (.ofBatches batches) config).diagnostics.Pairwise
      fun a b => compare a b = .lt :=
  sorted_ascends (reported_nodup batches config)

/-- **What a graph reports of one entry** is what the entry reports, apart from duplicate ids. -/
theorem diagnostics_of_entry (c : Collection) (id : String) :
    ((ContentGraph.build (.ofBatches batches) config).diagnostics.filter fun d =>
      d.collection = c ∧ d.id = id ∧ d.kind ≠ .duplicateId) =
    (((ContentGraph.build (.ofBatches batches) config).get? c id).map (·.diagnostics)).getD [] := by
  have hreported := (diagnostics_build_ascend batches config).sublist
    (List.filter_sublist (p := fun d => d.collection = c ∧ d.id = id ∧ d.kind ≠ .duplicateId))
  have hget := get?_build batches config c id
  cases he : (Registry.ofBatches batches).get? c id with
  | none =>
    rw [he, Option.map_none] at hget
    rw [hget]
    refine List.filter_eq_nil_iff.2 ?_
    intro d hd hp
    obtain ⟨rfl, rfl, hkind⟩ := of_decide_eq_true hp
    rcases (mem_diagnostics_iff batches config).1 hd with ⟨e, -, rfl⟩ | ⟨r, hr, -⟩
    · exact hkind rfl
    · rw [hget] at hr
      cases hr
  | some e =>
    rw [he, Option.map_some] at hget
    rw [hget]
    refine eq_of_ascends hreported (resolve_ascends _ _ _ _) ?_
    intro d
    rw [List.mem_filter, decide_eq_true_eq, mem_diagnostics_iff]
    constructor
    · rintro ⟨⟨e, -, rfl⟩ | ⟨r, hr, hd⟩, rfl, rfl, hkind⟩
      · exact absurd rfl hkind
      · rw [hget] at hr
        cases hr
        exact hd
    · intro hd
      have href := ref_of_mem_resolve hd
      have hid : e.id = id := id_of_get? he
      obtain ⟨f, hf, rfl⟩ := mem_resolve_iff.1 hd
      refine ⟨.inr ⟨_, ?_, hd⟩, rfl, hid, findings_kind _ _ _ _ f hf⟩
      show ContentGraph.get? _ c e.id = _
      rw [hid, hget]

/-- **A graph without errors** comes from offers with different ids, and all of its entries are fit
for use: a duplicate is an error, and so is whatever makes an entry unfit. -/
theorem clean_build (h : (ContentGraph.build (.ofBatches batches) config).hasErrors = false) :
    (Registry.ofBatches batches).errors = [] ∧
      ∀ r ∈ (ContentGraph.build (.ofBatches batches) config).all, r.valid = true := by
  have hclean : ∀ d ∈ (ContentGraph.build (.ofBatches batches) config).diagnostics,
      d.severity ≠ .error := by
    intro d hd
    simpa [Diagnostic.isError] using List.any_eq_false.1 h d hd
  constructor
  · refine List.eq_nil_iff_forall_not_mem.2 ?_
    intro e he
    exact hclean _ ((mem_diagnostics_iff batches config).2 (.inl ⟨e, he, rfl⟩)) rfl
  · intro r hr
    rw [all_build] at hr
    obtain ⟨⟨ref, e⟩, he, rfl⟩ := List.mem_map.1 hr
    refine isValid_of_clean ?_
    intro f hf
    have hid : e.id = ref.id := id_of_get? (mem_entries_iff.1 he)
    refine hclean (f.at ref.collection e.id) ((mem_diagnostics_iff batches config).2 (.inr ?_))
    refine ⟨_, ?_, mem_resolve_iff.2 ⟨f, hf, rfl⟩⟩
    show ContentGraph.get? _ ref.collection e.id = _
    rw [hid, get?_build, mem_entries_iff.1 he]
    rfl

end

/-- **A graph that has all of its registry**: every entry of it, resolved, and all that is wrong
with them. -/
structure ContentGraph.Covers (graph : ContentGraph) (registry : Registry) (config : BuildConfig) :
    Prop where
  /-- The graph has an entry where the registry has one, and it is that entry, resolved. -/
  get? : ∀ c id, graph.get? c id = (registry.get? c id).map (·.resolve c registry config)
  /-- The graph lists what it has, by collection and id, each entry once, -/
  ascends : graph.all.Pairwise fun a b => compare a.ref b.ref = .lt
  mem_all : ∀ r, r ∈ graph.all ↔ graph.get? r.collection r.id = some r
  /-- and of these the ones that are fit for use. -/
  valid : graph.valid.Sublist graph.all
  mem_valid : ∀ r, r ∈ graph.valid ↔ r ∈ graph.all ∧ r.valid = true
  /-- The diagnostics are those of the registration and of all entries, in order. -/
  reported : graph.diagnostics.Perm
    (registry.errors.map (·.diagnostic) ++ graph.all.flatMap (·.diagnostics))
  sorted : graph.diagnostics.Pairwise fun a b => (compare a b).isLE = true
  /-- Those of one entry are its own, and those about duplicates of its id. -/
  own : ∀ c id, (graph.diagnostics.filter fun d =>
      d.collection = c ∧ d.id = id ∧ d.kind ≠ .duplicateId) =
    ((graph.get? c id).map (·.diagnostics)).getD []
  /-- Without errors there is no duplicate, and every entry is fit for use. -/
  clean : graph.hasErrors = false → registry.errors = [] ∧ graph.valid = graph.all

/-- **Every entry reaches the graph**, and so does all that is wrong with it. If the graph has no
errors, no two entries were offered with one id in one collection. -/
theorem build_covers (batches : List Batch) (config : BuildConfig) :
    (ContentGraph.build (.ofBatches batches) config).Covers (.ofBatches batches) config ∧
    ((ContentGraph.build (.ofBatches batches) config).hasErrors = false →
      ((offers batches).map (·.ref)).Nodup) := by
  have hget := get?_build batches config
  have hall := all_build batches config
  refine ⟨⟨hget, ?_, ?_, List.filter_sublist, ?_, ?_, sorted_pairwise _,
    diagnostics_of_entry batches config, ?_⟩, ?_⟩
  · rw [hall]
    exact resolveAll_ascends batches config
  · intro r
    rw [hall, hget, Option.map_eq_some_iff]
    constructor
    · intro hr
      obtain ⟨⟨ref, e⟩, he, rfl⟩ := List.mem_map.1 hr
      refine ⟨e, ?_, rfl⟩
      have hid : e.id = ref.id := id_of_get? (mem_entries_iff.1 he)
      show (Registry.ofBatches batches).get? ref.collection e.id = some e
      rw [hid]
      exact mem_entries_iff.1 he
    · rintro ⟨e, he, hr⟩
      exact List.mem_map.2 ⟨(⟨r.collection, r.id⟩, e), mem_entries_iff.2 he, hr⟩
  · intro r
    exact List.mem_filter
  · rw [hall]
    exact sorted_perm _
  · intro h
    obtain ⟨herrors, hvalid⟩ := clean_build batches config h
    exact ⟨herrors, List.filter_eq_self.2 hvalid⟩
  · intro h
    exact refs_nodup_of_errors (clean_build batches config h).1

/-- A cantrip with its school. Its text points at a condition that is not there. -/
def spark : List Batch :=
  [.unlabelled .spells [.spell
    { id := "spark", name := "Spark", level := 0, school := ⟨.magicSchools, "evocation"⟩,
      castingTimes := [⟨1, .action, none⟩], range := .touch, durations := [.instantaneous],
      desc := "See %\x7bref conditions dazed\x7d." }],
    .unlabelled .magicSchools [.record { id := "evocation" }]]

/-- The missing condition is a warning, which leaves the cantrip fit for use. -/
theorem build_covers_spark :
    (ContentGraph.build (.ofBatches spark) {}).hasErrors = false ∧
    (ContentGraph.build (.ofBatches spark) {}).diagnostics.length = 1 ∧
    ((offers spark).map (·.ref)).Nodup ∧
    (ContentGraph.build (.ofBatches spark) {}).valid =
      (ContentGraph.build (.ofBatches spark) {}).all := by
  have hclean : (ContentGraph.build (.ofBatches spark) {}).hasErrors = false := by decide +kernel
  obtain ⟨hcovers, hnodup⟩ := build_covers spark {}
  exact ⟨hclean, by decide +kernel, hnodup hclean, (hcovers.clean hclean).2⟩

end Rulebook
