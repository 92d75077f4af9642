import Rulebook.Proofs.Entry.Observed
import Rulebook.Proofs.Graph.Complete
import Rulebook.Proofs.Registry.Edited

/-!
# Entries are resolved apart from each other

What becomes of an entry depends on what it sees of the registry, and not on what else is in the
others or wrong with them. So an entry can be edited without a change to any other one in the graph.

* `Registry.EditedAt.seesAlike`: no entry sees that another one was edited.
* `get?_edited`, `diagnostics_edited`: the entries and the diagnostics of a graph after an edit.
* `resolve_isolated`: **entries are resolved apart from each other.**
-/

namespace Rulebook

theorem Registry.EditedAt.holds {ref : Reference} {registry registry' : Registry}
    (h : registry.EditedAt ref registry') (target : Reference) :
    registry.Holds target ↔ registry'.Holds target := by
  unfold Registry.Holds
  rw [← Option.isSome_iff_exists, ← Option.isSome_iff_exists, h.isSome]

/-- **No entry sees that one was edited**: it is still there. -/
theorem Registry.EditedAt.seesAlike {ref : Reference} {registry registry' : Registry}
    (h : registry.EditedAt ref registry') (e : Entry) : e.SeesAlike registry registry' :=
  fun target _ => h.holds target

section

variable {ref : Reference} {batches batches' : List Batch} (h : Edited ref batches batches')
  (config : BuildConfig)

include h

/-- **The other entries of a graph are as they were** before the edit of one. -/
theorem get?_edited {c : Collection} {id : String} (hne : (⟨c, id⟩ : Reference) ≠ ref) :
    Option.Rel ResolvedEntry.Alike ((ContentGraph.build (.ofBatches batches) config).get? c id)
      ((ContentGraph.build (.ofBatches batches') config).get? c id) := by
  have hedited := ofBatches_edited h
  rw [get?_build, get?_build, hedited.get? c id hne]
  cases (Registry.ofBatches batches).get? c id with
  | none => exact .none
  | some e => exact .some (resolve_alike (hedited.seesAlike e))

/-- **The diagnostics of the other entries are as they were.** -/
theorem diagnostics_edited :
    ((ContentGraph.build (.ofBatches batches) config).diagnostics.filter fun d =>
      (⟨d.collection, d.id⟩ : Reference) ≠ ref) =
    (ContentGraph.build (.ofBatches batches') config).diagnostics.filter fun d =>
      (⟨d.collection, d.id⟩ : Reference) ≠ ref := by
  refine eq_of_ascends ((diagnostics_build_ascend _ _).filter _)
    ((diagnostics_build_ascend _ _).filter _) fun d => ?_
  rw [List.mem_filter, List.mem_filter, decide_eq_true_eq]
  refine and_congr_left fun hne => ?_
  rw [mem_diagnostics_iff, mem_diagnostics_iff, (ofBatches_edited h).errors]
  refine or_congr_right ?_
  -- a diagnostic comes from the entry it is about, which is not the edited one
  have hrel := get?_edited h config hne
  revert hrel
  generalize (ContentGraph.build (.ofBatches batches) config).get? d.collection d.id = r?
  generalize (ContentGraph.build (.ofBatches batches') config).get? d.collection d.id = r'?
  intro hrel
  cases hrel with
  | none => simp
  | some halike => simp [halike.diagnostics]

end

/-- **Entries are resolved apart from each other.** If two registries have the same of what an entry
mentions, then it is resolved alike: it is as fit for use, with the same problems, the same
references found, and the same formulas. If they also have the same names for what it shows by name,
the texts are rendered alike. So if an entry is edited, broken or mended, all others in the graph
are as they were, and the same problems are reported of them. -/
theorem resolve_isolated (config : BuildConfig) :
    (∀ (e : Entry) c registry registry', e.SeesAlike registry registry' →
      (e.resolve c registry config).Alike (e.resolve c registry' config) ∧
      (e.ShowsAlike registry registry' → ∀ path,
        (e.resolve c registry config).rendered? path =
          (e.resolve c registry' config).rendered? path)) ∧
    ∀ ref batches batches', Edited ref batches batches' →
      (∀ c id, (⟨c, id⟩ : Reference) ≠ ref → Option.Rel ResolvedEntry.Alike
        ((ContentGraph.build (.ofBatches batches) config).get? c id)
        ((ContentGraph.build (.ofBatches batches') config).get? c id)) ∧
      ((ContentGraph.build (.ofBatches batches) config).diagnostics.filter fun d =>
        (⟨d.collection, d.id⟩ : Reference) ≠ ref) =
      (ContentGraph.build (.ofBatches batches') config).diagnostics.filter fun d =>
        (⟨d.collection, d.id⟩ : Reference) ≠ ref := by
  refine ⟨fun e c registry registry' h => ⟨resolve_alike h, fun hshows => ?_⟩,
    fun ref batches batches' h => ⟨fun c id hne => get?_edited h config hne, ?_⟩⟩
  · exact rendered?_congr h hshows
  · exact diagnostics_edited h config

/-- A cantrip that shows the name of a condition. Its school is not there. -/
def haze : Entry := .spell
  { id := "haze", name := "Haze", level := 0, school := ⟨.magicSchools, "conjuration"⟩,
    castingTimes := [⟨1, .action, none⟩], range := .touch, durations := [.instantaneous],
    desc := "You are %\x7bref conditions blind\x7d." }

/-- The cantrip with its condition, which has a text. -/
def hazy (text : String) : List Batch :=
  [.unlabelled .spells [haze],
    .unlabelled .conditions [.record { id := "blind", name := "Blind", desc := text }]]

/-- The text of the condition is broken. That is reported of it, and the cantrip is as it was. -/
theorem resolve_isolated_haze :
    haze.SeesAlike (.ofBatches (hazy "No sight.")) (.ofBatches (hazy "%\x7b")) ∧
    haze.ShowsAlike (.ofBatches (hazy "No sight.")) (.ofBatches (hazy "%\x7b")) ∧
    Edited ⟨.conditions, "blind"⟩ (hazy "No sight.") (hazy "%\x7b") ∧
    ((ContentGraph.build (.ofBatches (hazy "No sight.")) {}).get? .conditions "blind").map
      (·.diagnostics.length) = some 0 ∧
    ((ContentGraph.build (.ofBatches (hazy "%\x7b")) {}).get? .conditions "blind").map
      (·.diagnostics.length) = some 1 ∧
    (haze.resolve .spells (.ofBatches (hazy "%\x7b")) {}).rendered? "desc" =
      some "You are Blind." ∧
    (haze.resolve .spells (.ofBatches (hazy "No sight.")) {}).rendered? "desc" =
      (haze.resolve .spells (.ofBatches (hazy "%\x7b")) {}).rendered? "desc" ∧
    Option.Rel ResolvedEntry.Alike
      ((ContentGraph.build (.ofBatches (hazy "No sight.")) {}).get? .spells "haze")
      ((ContentGraph.build (.ofBatches (hazy "%\x7b")) {}).get? .spells "haze") := by
  have hedited : Edited ⟨.conditions, "blind"⟩ (hazy "No sight.") (hazy "%\x7b") :=
    .cons ⟨rfl, rfl, .cons (.inl rfl) .nil⟩ (.cons ⟨rfl, rfl, .cons (.inr ⟨rfl, rfl⟩) .nil⟩ .nil)
  have hregistry := ofBatches_edited hedited
  have hsees := hregistry.seesAlike haze
  have hshows : haze.ShowsAlike (.ofBatches (hazy "No sight.")) (.ofBatches (hazy "%\x7b")) := by
    intro ref _ x x' hx hx'
    by_cases href : ref = ⟨.conditions, "blind"⟩
    · subst href
      cases hx
      cases hx'
      rfl
    · rw [hregistry.get? _ _ href, hx] at hx'
      cases hx'
      rfl
  obtain ⟨hresolve, hbuild⟩ := resolve_isolated {}
  refine ⟨hsees, hshows, hedited, by decide +kernel, by decide +kernel, by decide +kernel, ?_, ?_⟩
  · exact (hresolve haze .spells _ _ hsees).2 hshows "desc"
  · exact (hbuild _ _ _ hedited).1 .spells "haze" (by decide)

end Rulebook
