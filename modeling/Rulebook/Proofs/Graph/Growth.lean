import Rulebook.Proofs.Entry.Observed
import Rulebook.Proofs.Graph.Build
import Rulebook.Proofs.Registry.Growth

/-!
# Graphs that grow

More content cannot break what was there: no entry is lost or replaced, and a reference that was
found is found again.

* `Registry.Grows.findsAgain`: in a registry that has grown, an entry finds what it found.
* `build_grows`: **every entry is still in the graph**, and there is no more wrong with it.
-/

namespace Rulebook

/-- **In a registry that has grown, an entry finds what it found before.** -/
theorem Registry.Grows.findsAgain {registry registry' : Registry} (h : registry.Grows registry')
    (e : Entry) : e.FindsAgain registry registry' := by
  rintro ref - ⟨x, hx⟩
  exact ⟨x, h.get? _ _ x hx⟩

/-- A registry that has grown has each entry where it was. -/
theorem Registry.Grows.location?_eq {registry registry' : Registry} (h : registry.Grows registry')
    {c : Collection} {id : String} {e : Entry} (he : registry.get? c id = some e) :
    registry'.location? c id = registry.location? c id := by
  obtain ⟨x, hx, -⟩ := Option.map_eq_some_iff.1 he
  have hlocation : registry.location? c id = some x.location :=
    Option.map_eq_some_iff.2 ⟨x, hx, rfl⟩
  rw [hlocation, h.location? c id _ hlocation]

/-- **More content does not break what is registered.** Every entry of the graph is still there, the
same one at the same location. If it was fit for use it still is, and of its problems only missing
references can be gone. The errors of the registration are still the first ones. -/
theorem build_grows (batches more : List Batch) (config : BuildConfig) :
    (∀ c id r, (ContentGraph.build (.ofBatches batches) config).get? c id = some r →
      (∃ r', (ContentGraph.build (.ofBatches (batches ++ more)) config).get? c id = some r' ∧
        r'.ImprovesOn r) ∧
      (Registry.ofBatches (batches ++ more)).location? c id =
        (Registry.ofBatches batches).location? c id) ∧
    (Registry.ofBatches batches).errors <+: (Registry.ofBatches (batches ++ more)).errors := by
  have hgrows := ofBatches_grows batches more
  refine ⟨fun c id r hr => ?_, hgrows.errors⟩
  rw [get?_build] at hr
  obtain ⟨e, he, rfl⟩ := Option.map_eq_some_iff.1 hr
  refine ⟨⟨e.resolve c (.ofBatches (batches ++ more)) config, ?_, ?_⟩, hgrows.location?_eq he⟩
  · rw [get?_build, hgrows.get? c id e he]
    rfl
  · exact resolve_improvesOn (hgrows.findsAgain e)

/-- A skill without its ability. -/
def unlinked : List Batch := [.unlabelled .skills [linkedSkill]]

/-- The ability, and another skill with the same id. -/
def supplement : List Batch :=
  [.unlabelled .abilityScores [.record { id := "dex" }],
    .unlabelled .skills [.record { id := "stealth" }]]

/-- The ability makes the skill fit for use, and the other skill does not take its place. -/
theorem build_grows_supplement :
    ∃ r, (ContentGraph.build (.ofBatches unlinked) {}).get? .skills "stealth" = some r ∧
      r.valid = false ∧
      (∃ r', (ContentGraph.build (.ofBatches (unlinked ++ supplement)) {}).get? .skills "stealth" =
        some r' ∧ r'.valid = true ∧ r'.ImprovesOn r) ∧
      (Registry.ofBatches (unlinked ++ supplement)).location? .skills "stealth" =
        some ⟨"skills", 0⟩ := by
  have hr : (ContentGraph.build (.ofBatches unlinked) {}).get? .skills "stealth" =
      some (linkedSkill.resolve .skills (.ofBatches unlinked) {}) := by
    rw [get?_build]
    rfl
  obtain ⟨⟨r', hr', himproves⟩, hlocation⟩ :=
    (build_grows unlinked supplement {}).1 .skills "stealth" _ hr
  have hvalid : r'.valid = true := by
    have heval : ((ContentGraph.build (.ofBatches (unlinked ++ supplement)) {}).get? .skills
        "stealth").map (·.valid) = some true := by decide +kernel
    rw [hr'] at heval
    exact Option.some.inj heval
  exact ⟨_, hr, by decide +kernel, ⟨r', hr', hvalid, himproves⟩, hlocation.trans rfl⟩

end Rulebook
