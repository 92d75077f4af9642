import Rulebook.Graph.Basic
import Rulebook.Proofs.Entry.Account

/-!
# What a configuration decides

A configuration is about what is reported, and not about what an entry is worth. It decides how bad
a missing reference in a template is, and whether there is a warning about an attack without a
saving throw that says what a save does.

* `Diagnostic.isSaveWarning`: that warning. `Entry.ignoresSave`: the entries that it is about.
* `Diagnostic.unweighted`: a diagnostic without the severity that a configuration decides.
* `untuned`: diagnostics apart from what a configuration decides.
* `untuned_findings`: what is found wrong with an entry is the same then.
* `ResolvedEntry.TunedAlike`: resolved entries that are the same apart from that.
* `resolve_tuned`: **every configuration gives the same resolved entry**, up to the warning and the
  severities.
-/

namespace Rulebook

namespace Diagnostic

/-- Whether a diagnostic is the warning about an attack without a saving throw. -/
def isSaveWarning (d : Diagnostic) : Bool :=
  d.field = "attack.effectOnSave" ∧ d.severity = .warning ∧ d.kind = .structural

/-- A diagnostic without its severity, if it is about a missing reference in a template. -/
def unweighted (d : Diagnostic) : Diagnostic :=
  if d.kind = .danglingReference ∧ (d.field = "desc" ∨ d.field = "higherLevels") then
    { d with severity := .error }
  else d

end Diagnostic

/-- Whether an entry has an attack without a saving throw that says what a save does. -/
def Entry.ignoresSave : Entry → Bool
  | spell s => s.attack.any fun a => !a.kind.isSavingThrow && a.effectOnSave.isSome
  | record _ => false

/-- Diagnostics apart from what a configuration decides. -/
def untuned (diagnostics : List Diagnostic) : List Diagnostic :=
  (diagnostics.filter (!·.isSaveWarning)).map (·.unweighted)

/-- **Resolved entries that are the same** apart from what a configuration decides. -/
structure ResolvedEntry.TunedAlike (r r' : ResolvedEntry) : Prop where
  collection : r.collection = r'.collection
  entry : r.entry = r'.entry
  valid : r.valid = r'.valid
  references : r.references = r'.references
  dice : r.dice = r'.dice
  progressions : r.progressions = r'.progressions
  templates : r.templates = r'.templates
  rendered : ∀ path, r.rendered? path = r'.rendered? path
  /-- The order of diagnostics depends on their severities. -/
  diagnostics : (untuned r.diagnostics).Perm (untuned r'.diagnostics)

theorem untuned_append (a b : List Diagnostic) : untuned (a ++ b) = untuned a ++ untuned b := by
  unfold untuned
  rw [List.filter_append, List.map_append]

theorem untuned_perm {a b : List Diagnostic} (h : a.Perm b) : (untuned a).Perm (untuned b) :=
  (h.filter _).map _

section

variable (c : Collection) (id : String)

/-- The warning about an attack, as a diagnostic of an entry. -/
def saveWarning : Diagnostic := ⟨c, id, "attack.effectOnSave", .warning, .structural,
  "effectOnSave is ignored for attacks without a saving throw"⟩

/-! ## Findings -/

/-- **The rules on an attack** find the same with every configuration, apart from the warning. -/
theorem untuned_attack (s : Spell) (config config' : BuildConfig) :
    untuned ((s.attackFindings config).map (·.at c id)) =
      untuned ((s.attackFindings config').map (·.at c id)) := by
  have hwarning (broken : Bool) : untuned ((findIf broken (.warning "attack.effectOnSave"
      "effectOnSave is ignored for attacks without a saving throw")).map (·.at c id)) = [] := by
    cases broken <;> rfl
  unfold Spell.attackFindings
  cases s.attack with
  | none => rfl
  | some a =>
    by_cases h : a.kind.isSavingThrow = true
    · simp only [if_pos h]
    · simp only [if_neg h, hwarning]

theorem untuned_structural (e : Entry) (config config' : BuildConfig) :
    untuned ((e.structuralFindings c config).map (·.at c id)) =
      untuned ((e.structuralFindings c config').map (·.at c id)) := by
  cases e with
  | spell s =>
    simp only [Entry.structuralFindings, Spell.findings, List.map_append, untuned_append,
      untuned_attack c id s config config']
  | record r => rfl

/-- The templates of an entry are at two paths. -/
theorem template_paths {e : Entry} {f : TemplateField} (hf : f ∈ e.templateFields) :
    f.path = "desc" ∨ f.path = "higherLevels" := by
  have h : e.Describes f.path f.source := mem_templateFields_iff.1 ⟨f, hf, rfl, rfl⟩
  generalize f.path = path, f.source = source at h
  cases h with
  | desc => exact .inl rfl
  | higherLevels _ => exact .inr rfl
  | recordDesc _ => exact .inl rfl

/-- A missing reference in a template is the same problem, however bad it is. -/
theorem unweighted_dangling {path : String} (h : path = "desc" ∨ path = "higherLevels")
    (severity : Severity) (d : Spanned Template.RefDirective) :
    ((danglingFinding path severity d).at c id).unweighted =
      (danglingFinding path .error d).at c id :=
  if_pos ⟨rfl, h⟩

/-- **A template** has the same problems with every configuration, apart from their severity. -/
theorem untuned_template {f : TemplateField} (h : f.path = "desc" ∨ f.path = "higherLevels")
    (registry : Registry) (severity severity' : Severity) :
    untuned ((f.findings registry severity).map (·.at c id)) =
      untuned ((f.findings registry severity').map (·.at c id)) := by
  cases ht : f.template with
  | error err => rw [findings_of_malformed ht, findings_of_malformed ht]
  | ok t =>
    have hparsed (severity : Severity) :
        untuned ((f.findings registry severity).map (·.at c id)) =
          (t.dangling registry).map fun d => (danglingFinding f.path .error d).at c id := by
      have hkept : ((f.findings registry severity).map (·.at c id)).filter (!·.isSaveWarning) =
          (f.findings registry severity).map (·.at c id) := by
        refine List.filter_eq_self.2 (List.forall_mem_map.2 fun x hx => ?_)
        rw [findings_of_parsed ht] at hx
        obtain ⟨d, -, rfl⟩ := List.mem_map.1 hx
        simp [Diagnostic.isSaveWarning, danglingFinding, Finding.at]
      unfold untuned
      rw [hkept, findings_of_parsed ht, List.map_map, List.map_map]
      exact List.map_congr_left fun d _ => unweighted_dangling c id h severity d
    rw [hparsed, hparsed]

theorem untuned_templates (e : Entry) (registry : Registry) (severity severity' : Severity) :
    untuned ((e.templateFields.flatMap (·.findings registry severity)).map (·.at c id)) =
      untuned ((e.templateFields.flatMap (·.findings registry severity')).map (·.at c id)) := by
  have hpaths : ∀ f ∈ e.templateFields, f.path = "desc" ∨ f.path = "higherLevels" :=
    fun f hf => template_paths hf
  generalize e.templateFields = fields at hpaths
  induction fields with
  | nil => rfl
  | cons f fields ih =>
    obtain ⟨hf, hfields⟩ := List.forall_mem_cons.1 hpaths
    rw [List.flatMap_cons, List.flatMap_cons, List.map_append, List.map_append, untuned_append,
      untuned_append, ih hfields, untuned_template c id hf registry severity severity']

/-- **What is found wrong with an entry does not depend on the configuration**, apart from what it
decides. -/
theorem untuned_findings (e : Entry) (registry : Registry) (config config' : BuildConfig) :
    untuned ((e.findings c registry config).map (·.at c id)) =
      untuned ((e.findings c registry config').map (·.at c id)) := by
  unfold Entry.findings
  simp only [List.map_append, untuned_append]
  rw [untuned_structural c id e config config', untuned_templates c id e registry
    config.templateReferenceSeverity config'.templateReferenceSeverity]

/-! ## The warning -/

/-- Findings at fields of other shapes are not the warning. -/
theorem saveWarnings_of_shapes {shapes : List String} {findings : List Finding}
    (h : Structural shapes findings) (hshapes : "attack.effectOnSave" ∉ shapes) :
    (findings.map (·.at c id)).filter (·.isSaveWarning) = [] := by
  refine List.filter_eq_nil_iff.2 (List.forall_mem_map.2 fun f hf hwarning => ?_)
  have hfield : f.field = "attack.effectOnSave" := (of_decide_eq_true hwarning).1
  have hsingle : Shaped ["attack.effectOnSave"] ["attack.effectOnSave"] := .single _ rfl
  refine h.fields.apart hsingle ?_ f.field (List.mem_map_of_mem hf) (List.mem_singleton.2 hfield)
  intro s hs heq
  exact hshapes (List.mem_singleton.1 heq ▸ hs)

/-- **The warning is the only one** that the rules on an attack give. -/
theorem saveWarnings_attack (s : Spell) (config : BuildConfig) :
    ((s.attackFindings config).map (·.at c id)).filter (·.isSaveWarning) =
      if config.effectOnSaveWarnings && (Entry.spell s).ignoresSave then [saveWarning c id]
      else [] := by
  have herror (broken : Bool) (field message : String) :
      ((findIf broken (.error field message)).map (·.at c id)).filter (·.isSaveWarning) = [] := by
    cases broken <;> simp [findIf, Finding.error, Finding.at, Diagnostic.isSaveWarning]
  have hwarning (broken : Bool) : ((findIf broken (.warning "attack.effectOnSave"
      "effectOnSave is ignored for attacks without a saving throw")).map (·.at c id)).filter
        (·.isSaveWarning) = if broken then [saveWarning c id] else [] := by
    cases broken <;> rfl
  have hignores : (Entry.spell s).ignoresSave =
      s.attack.any fun a => !a.kind.isSavingThrow && a.effectOnSave.isSome := rfl
  unfold Spell.attackFindings
  rw [hignores]
  cases s.attack with
  | none => simp
  | some a =>
    by_cases h : a.kind.isSavingThrow = true
    · simp only [if_pos h, List.map_append, List.filter_append, herror]
      simp [h]
    · simp only [if_neg h, hwarning]
      simp [h, and_comm]

end

section

variable (e : Entry) (c : Collection) (registry : Registry) (config : BuildConfig)

theorem saveWarnings_findings :
    ((e.findings c registry config).map (·.at c e.id)).filter (·.isSaveWarning) =
      if config.effectOnSaveWarnings && e.ignoresSave then [saveWarning c e.id] else [] := by
  have hcontents : ((e.contentFindings registry config).map (·.at c e.id)).filter
      (·.isSaveWarning) = [] := by
    refine List.filter_eq_nil_iff.2 (List.forall_mem_map.2 fun f hf hwarning => ?_)
    exact (contentFindings_ofContent e registry config f hf).1 (of_decide_eq_true hwarning).2.2
  have hplacement : ((e.placement c).map (·.at c e.id)).filter (·.isSaveWarning) = [] := by
    refine List.filter_eq_nil_iff.2 (List.forall_mem_map.2 fun f hf hwarning => ?_)
    have hfield : f.field = "attack.effectOnSave" := (of_decide_eq_true hwarning).1
    rw [placement_field e c f hf] at hfield
    exact absurd hfield (by decide)
  rw [findings_eq, structuralFindings_eq, List.map_append, List.map_append, List.filter_append,
    List.filter_append, hcontents, hplacement, List.append_nil, List.nil_append]
  cases e with
  | record r => simp [Entry.ruleFindings, Entry.ignoresSave]
  | spell s =>
    have hlevel : Structural ["level"] s.levelFindings := .findIf "level" _ rfl rfl (by decide)
    have hbefore := saveWarnings_of_shapes c s.id
      ((hlevel.append (castingTimes_structural s)).append (durations_structural s)) (by decide)
    have hbehind := saveWarnings_of_shapes c s.id (progressions_structural s) (by decide)
    show ((s.findings config).map (·.at c s.id)).filter (·.isSaveWarning) = _
    rw [Spell.findings, List.map_append, List.map_append, List.filter_append, List.filter_append,
      hbefore, hbehind, saveWarnings_attack, List.append_nil, List.nil_append]
    rfl

/-! ## Resolved entries -/

/-- The warning is given once, if the configuration asks for it. -/
theorem saveWarnings_resolve : (e.resolve c registry config).diagnostics.filter (·.isSaveWarning) =
    if config.effectOnSaveWarnings && e.ignoresSave then [saveWarning c e.id] else [] := by
  have hperm : ((e.resolve c registry config).diagnostics.filter (·.isSaveWarning)).Perm
      (((e.findings c registry config).map (·.at c e.id)).filter (·.isSaveWarning)) :=
    (sorted_perm _).filter _
  rw [saveWarnings_findings] at hperm
  cases hgiven : config.effectOnSaveWarnings && e.ignoresSave with
  | false =>
    rw [hgiven] at hperm
    exact hperm.eq_nil
  | true =>
    rw [hgiven] at hperm
    exact hperm.eq_singleton

theorem resolve_tunedAlike (config' : BuildConfig) :
    (e.resolve c registry config).TunedAlike (e.resolve c registry config') where
  collection := rfl
  entry := rfl
  valid := Bool.eq_iff_iff.2 (isValid_congr fun _ _ => Iff.rfl)
  references := rfl
  dice := rfl
  progressions := rfl
  templates := rfl
  rendered _ := rfl
  diagnostics := by
    have hsame := untuned_findings c e.id e registry config config'
    refine (untuned_perm (sorted_perm _)).trans ?_
    rw [hsame]
    exact (untuned_perm (sorted_perm _)).symm

/-- **Every configuration gives the same resolved entry**, with the same problems. It only decides
whether the warning about an attack is among them, and how bad missing references in templates are. No
other option is read. -/
theorem resolve_tuned :
    (∀ config', (e.resolve c registry config).TunedAlike (e.resolve c registry config')) ∧
    (e.resolve c registry config).diagnostics.filter (·.isSaveWarning) =
      (if config.effectOnSaveWarnings && e.ignoresSave then [saveWarning c e.id] else []) ∧
    ∀ parallel, e.resolve c registry { config with parallel } = e.resolve c registry config ∧
      ContentGraph.build registry { config with parallel } = ContentGraph.build registry config :=
  ⟨resolve_tunedAlike e c registry config, saveWarnings_resolve e c registry config,
    fun _ => ⟨rfl, rfl⟩⟩

end

end Rulebook
