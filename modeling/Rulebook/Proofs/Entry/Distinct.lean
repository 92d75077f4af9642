import Rulebook.Proofs.Entry.Lookup
import Rulebook.Proofs.Entry.Rules
import Rulebook.Proofs.Template.Tiling

/-!
# The findings on an entry

Nothing that is wrong with an entry is found twice. Structural findings differ in their fields, and
in their kind from all others. The others differ in their fields, except for the references in one
template, which stand at different places in it.

* `lookup_found`, `dice_found`, `template_found`: the field of a finding, and that it is neither a
  broken rule nor a duplicate id.
* `failures_ascend`: the failed references of a template, by where they stop.
* `findings_nodup`: **the findings on an entry are not repeated.**
* `mem_resolve_iff`, `resolve_nodup`, `resolve_ascends`: the diagnostics of an entry are its
  findings, each one once and in order.
-/

namespace Rulebook

/-- Whether a finding is about what a field says: a reference, a formula or a template. -/
def Finding.OfContent (f : Finding) : Prop := f.kind ≠ .structural ∧ f.kind ≠ .duplicateId

theorem lookup_found {registry : Registry} {field : ReferenceField} {f : Finding}
    (h : field.finding? registry = some f) : f.field = field.path ∧ f.OfContent := by
  unfold ReferenceField.finding? at h
  cases hl : field.lookup registry with
  | ok e => rw [hl] at h; cases h
  | error e =>
    rw [hl] at h
    cases h
    refine ⟨rfl, ?_⟩
    cases e <;> simp [Finding.OfContent, ResolveError.kind]

theorem dice_found {field : DiceField} {f : Finding} (h : field.finding? = some f) :
    f.field = field.path ∧ f.OfContent := by
  unfold DiceField.finding? at h
  cases hp : field.formula with
  | ok formula => rw [hp] at h; cases h
  | error e =>
    rw [hp] at h
    cases h
    exact ⟨rfl, by simp [Finding.OfContent]⟩

theorem template_found {registry : Registry} {severity : Severity} {field : TemplateField}
    {f : Finding} (h : f ∈ field.findings registry severity) :
    f.field = field.path ∧ f.OfContent := by
  unfold TemplateField.findings at h
  cases hr : field.resolve registry with
  | error e =>
    rw [hr] at h
    cases List.mem_singleton.1 h
    exact ⟨rfl, by simp [Finding.OfContent]⟩
  | ok t =>
    rw [hr] at h
    obtain ⟨⟨e, span⟩, -, rfl⟩ := List.mem_map.1 h
    refine ⟨rfl, ?_⟩
    cases e <;> simp [Finding.OfContent, ResolveError.kind]

/-! ## The references in a template -/

/-- The failed references of a template stand one behind the other. -/
theorem failures_ascend {raw : String} {t : Template} (h : Template.parse raw = .ok t)
    (registry : Registry) :
    (t.resolve registry).failures.Pairwise fun a b => a.span.stop < b.span.stop := by
  have hspans := (Template.parse_spans h).stops_ascend
  have hdirectives : (t.directives.map (·.span)).Sublist (t.nodes.map (·.span)) := by
    refine filterMap_sublist ?_ _
    intro n d hd
    obtain ⟨r, -, rfl⟩ := Option.map_eq_some_iff.1 hd
    rfl
  have hdangling : ((t.dangling registry).map (·.span)).Sublist (t.directives.map (·.span)) :=
    List.filter_sublist.map _
  have hascend := hspans.sublist (hdangling.trans hdirectives)
  rw [failures_resolve, List.pairwise_map]
  rwa [List.pairwise_map] at hascend

/-- Messages on directives that are alike are on directives that stop at the same place. -/
theorem stop_of_message {first second : String} {left right : Span}
    (h : s!"{first} (directive at normalized offset {left.start}..{left.stop})" =
      s!"{second} (directive at normalized offset {right.start}..{right.stop})") :
    left.stop = right.stop := by
  have hstop := (String.append_left_inj ")").1 h
  exact (append_number ".." ['.'] rfl rfl hstop).2

theorem template_findings_nodup (registry : Registry) (severity : Severity)
    (field : TemplateField) : (field.findings registry severity).Nodup := by
  unfold TemplateField.findings
  cases hr : field.resolve registry with
  | error e => exact List.nodup_singleton _
  | ok resolved =>
    obtain ⟨t, ht, rfl⟩ := map_eq_ok hr
    rw [List.nodup_iff_pairwise_ne, List.pairwise_map]
    refine (failures_ascend ht registry).imp ?_
    intro a b hlt heq
    -- kind and text of two failures can be equal, but not where their directives stop
    have hmessage := congrArg Finding.message heq
    exact absurd (stop_of_message hmessage) (Nat.ne_of_lt hlt)

/-! ## All findings -/

section

variable (e : Entry) (c : Collection) (registry : Registry) (config : BuildConfig)

/-- What is found about the references of an entry. -/
def Entry.lookupFindings : List Finding := e.referenceFields.filterMap (·.finding? registry)

/-- What is found about the formulas of an entry. -/
def Entry.diceFindings : List Finding := e.diceFields.filterMap (·.finding?)

/-- What is found about the templates of an entry. -/
def Entry.templateFindings : List Finding :=
  e.templateFields.flatMap (·.findings registry config.templateReferenceSeverity)

/-- What is found about the content of the fields of an entry. -/
def Entry.contentFindings : List Finding :=
  e.lookupFindings registry ++ e.diceFindings ++ e.templateFindings registry config

theorem findings_eq : e.findings c registry config =
    e.structuralFindings c config ++ e.contentFindings registry config := by
  unfold Entry.contentFindings
  rw [← List.append_assoc, ← List.append_assoc]
  rfl

theorem lookupFindings_found : ∀ f ∈ e.lookupFindings registry,
    f.field ∈ e.referenceFields.map (·.path) ∧ f.OfContent := by
  intro f hf
  obtain ⟨field, hfield, hf⟩ := List.mem_filterMap.1 hf
  obtain ⟨hpath, hcontent⟩ := lookup_found hf
  exact ⟨List.mem_map.2 ⟨field, hfield, hpath.symm⟩, hcontent⟩

theorem diceFindings_found :
    ∀ f ∈ e.diceFindings, f.field ∈ e.diceFields.map (·.path) ∧ f.OfContent := by
  intro f hf
  obtain ⟨field, hfield, hf⟩ := List.mem_filterMap.1 hf
  obtain ⟨hpath, hcontent⟩ := dice_found hf
  exact ⟨List.mem_map.2 ⟨field, hfield, hpath.symm⟩, hcontent⟩

theorem templateFindings_found : ∀ f ∈ e.templateFindings registry config,
    f.field ∈ e.templateFields.map (·.path) ∧ f.OfContent := by
  intro f hf
  obtain ⟨field, hfield, hf⟩ := List.mem_flatMap.1 hf
  obtain ⟨hpath, hcontent⟩ := template_found hf
  exact ⟨List.mem_map.2 ⟨field, hfield, hpath.symm⟩, hcontent⟩

theorem templateFindings_nodup (h : (e.templateFields.map (·.path)).Nodup) :
    (e.templateFindings registry config).Nodup := by
  refine List.nodup_flatMap.2 ⟨fun field _ => template_findings_nodup registry _ field, ?_⟩
  refine (List.pairwise_map.1 h).imp ?_
  rintro field field' hne f hf hf'
  exact hne ((template_found hf).1.symm.trans (template_found hf').1)

/-- **What is found about the fields of an entry is not repeated.** -/
theorem contentFindings_nodup : (e.contentFindings registry config).Nodup := by
  obtain ⟨hpaths, htemplates, hapart⟩ := List.nodup_append.1 (fieldPaths_nodup e)
  obtain ⟨hreferences, hdice, hapart'⟩ := List.nodup_append.1 hpaths
  have hlookup : (e.lookupFindings registry).Nodup :=
    .of_map _ (hreferences.sublist (filterMap_sublist (fun _ _ h => (lookup_found h).1) _))
  have hformulas : e.diceFindings.Nodup :=
    .of_map _ (hdice.sublist (filterMap_sublist (fun _ _ h => (dice_found h).1) _))
  -- findings on different fields are at different paths
  refine List.nodup_append.2 ⟨List.nodup_append.2 ⟨hlookup, hformulas, ?_⟩,
    templateFindings_nodup e registry config htemplates, ?_⟩
  · rintro f hf _ hf' rfl
    exact hapart' _ (lookupFindings_found e registry f hf).1 _ (diceFindings_found e f hf').1 rfl
  · rintro f hf _ hf' rfl
    refine hapart _ ?_ _ (templateFindings_found e registry config f hf').1 rfl
    rcases List.mem_append.1 hf with hf | hf
    · exact List.mem_append_left _ (lookupFindings_found e registry f hf).1
    · exact List.mem_append_right _ (diceFindings_found e f hf).1

theorem contentFindings_ofContent : ∀ f ∈ e.contentFindings registry config, f.OfContent := by
  refine List.forall_mem_append.2 ⟨List.forall_mem_append.2 ⟨?_, ?_⟩, ?_⟩
  · exact fun f hf => (lookupFindings_found e registry f hf).2
  · exact fun f hf => (diceFindings_found e f hf).2
  · exact fun f hf => (templateFindings_found e registry config f hf).2

/-- **The findings on an entry are not repeated.** -/
theorem findings_nodup : (e.findings c registry config).Nodup := by
  have hstructural : (e.structuralFindings c config).Nodup :=
    .of_map _ (structural_nodup e c config)
  rw [findings_eq]
  refine List.nodup_append.2 ⟨hstructural, contentFindings_nodup e registry config, ?_⟩
  rintro f hf _ hf' rfl
  exact (contentFindings_ofContent e registry config f hf').1 (structural_kind e c config f hf)

/-- No finding on an entry is of the kind that a registration reports. -/
theorem findings_kind : ∀ f ∈ e.findings c registry config, f.kind ≠ .duplicateId := by
  rw [findings_eq]
  refine List.forall_mem_append.2 ⟨?_, ?_⟩
  · intro f hf
    rw [structural_kind e c config f hf]
    decide
  · exact fun f hf => (contentFindings_ofContent e registry config f hf).2

end

/-! ## Diagnostics -/

theorem mem_resolve_iff {e : Entry} {c : Collection} {registry : Registry} {config : BuildConfig}
    {d : Diagnostic} : d ∈ (e.resolve c registry config).diagnostics ↔
      ∃ f ∈ e.findings c registry config, f.at c e.id = d := by
  show d ∈ sorted _ ↔ _
  rw [(sorted_perm _).mem_iff, List.mem_map]

/-- A diagnostic of an entry has the collection and the id of the entry. -/
theorem ref_of_mem_resolve {e : Entry} {c : Collection} {registry : Registry}
    {config : BuildConfig} {d : Diagnostic} (h : d ∈ (e.resolve c registry config).diagnostics) :
    (⟨d.collection, d.id⟩ : Reference) = (e.resolve c registry config).ref := by
  obtain ⟨f, -, rfl⟩ := mem_resolve_iff.1 h
  rfl

section

variable (e : Entry) (c : Collection) (registry : Registry) (config : BuildConfig)

/-- The findings on an entry, as problems of the entry, are not repeated. -/
theorem findings_at_nodup : ((e.findings c registry config).map (·.at c e.id)).Nodup := by
  refine (findings_nodup e c registry config).map ?_
  rintro ⟨field, severity, kind, message⟩ ⟨field', severity', kind', message'⟩ h
  cases h
  rfl

/-- **The diagnostics of an entry are not repeated.** -/
theorem resolve_nodup : (e.resolve c registry config).diagnostics.Nodup :=
  (sorted_perm _).nodup_iff.2 (findings_at_nodup e c registry config)

theorem resolve_ascends : (e.resolve c registry config).diagnostics.Pairwise
    fun a b => compare a b = .lt :=
  sorted_ascends (findings_at_nodup e c registry config)

end

end Rulebook
