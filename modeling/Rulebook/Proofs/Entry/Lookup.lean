import Mathlib.Data.List.Basic
import Rulebook.Proofs.Entry.WellFormed

/-!
# What a registry says about an entry

A registry is asked about a reference only whether it points at something. What is found about a
field follows from that answer.

* `finding?_of_misfit`, `finding?_of_missing`, `finding?_of_held`: the finding on a reference field:
  its target is in another collection, or is missing, or is there.
* `Template.directives`, `Template.dangling`: the references in a template, and those that point at
  nothing.
* `foldl_add`: a walk over nodes finds one target for each of them. `links_resolve`, `render_resolve`:
  so each node is paired with its own target. `failures_resolve`: the references that point at nothing
  are the ones that fail.
* `isValid_of_clean`: **an entry is fit for use unless one of its findings is an error.**
-/

namespace Rulebook

instance (registry : Registry) (ref : Reference) : Decidable (registry.Holds ref) :=
  decidable_of_iff ((registry.get? ref.collection ref.id).isSome = true) Option.isSome_iff_exists

section

variable {registry : Registry}

theorem not_holds_iff {ref : Reference} :
    ¬ registry.Holds ref ↔ registry.get? ref.collection ref.id = none :=
  not_exists.trans Option.eq_none_iff_forall_ne_some.symm

theorem resolve_missing {ref : Reference} (h : ¬ registry.Holds ref) :
    registry.resolve ref = .error (.notFound ref) := by
  unfold Registry.resolve
  rw [not_holds_iff.1 h]

theorem resolve_found {ref : Reference} {e : Entry}
    (h : registry.get? ref.collection ref.id = some e) : registry.resolve ref = .ok e := by
  unfold Registry.resolve
  rw [h]

end

/-! ## Reference fields -/

/-- Whether the target of a field is in a collection that the field accepts. -/
def ReferenceField.Fits (f : ReferenceField) : Prop := ∀ c ∈ f.expected, f.target.collection = c

section

variable {registry : Registry} {f : ReferenceField}

theorem lookup_of_fits (h : f.Fits) : f.lookup registry = registry.resolve f.target := by
  unfold ReferenceField.lookup Registry.resolveInto
  cases hexpected : f.expected with
  | none => rfl
  | some c => exact if_pos (h c hexpected)

/-- A target in another collection than the field accepts is not looked for. -/
theorem lookup_of_misfit {c : Collection} (h : f.expected = some c)
    (hne : f.target.collection ≠ c) :
    f.lookup registry = .error (.wrongCollection c f.target) := by
  unfold ReferenceField.lookup Registry.resolveInto
  rw [h]
  exact if_neg hne

theorem finding?_of_misfit {c : Collection} (h : f.expected = some c)
    (hne : f.target.collection ≠ c) : f.finding? registry = some ⟨f.path, .error,
      .wrongCollection, (ResolveError.wrongCollection c f.target).message⟩ := by
  unfold ReferenceField.finding?
  rw [lookup_of_misfit h hne]
  rfl

theorem finding?_of_missing (h : f.Fits) (hmissing : ¬ registry.Holds f.target) :
    f.finding? registry = some ⟨f.path, .error, .danglingReference,
      (ResolveError.notFound f.target).message⟩ := by
  unfold ReferenceField.finding?
  rw [lookup_of_fits h, resolve_missing hmissing]
  rfl

theorem finding?_of_held (h : f.Fits) (hheld : registry.Holds f.target) :
    f.finding? registry = none := by
  obtain ⟨e, he⟩ := hheld
  unfold ReferenceField.finding?
  rw [lookup_of_fits h, resolve_found he]

theorem misfit_of_not_fits (h : ¬ f.Fits) : ∃ c, f.expected = some c ∧ f.target.collection ≠ c := by
  obtain ⟨c, hc⟩ := Classical.not_forall.1 h
  obtain ⟨hexpected, hne⟩ := Classical.not_imp.1 hc
  exact ⟨c, hexpected, hne⟩

/-- What a field is looked up as is registered under its target. -/
theorem get?_of_lookup {x : Entry} (h : f.lookup registry = .ok x) :
    registry.get? f.target.collection f.target.id = some x := by
  by_cases hfits : f.Fits
  · rw [lookup_of_fits hfits] at h
    by_cases hheld : registry.Holds f.target
    · obtain ⟨y, hy⟩ := hheld
      rw [resolve_found hy] at h
      cases h
      exact hy
    · rw [resolve_missing hheld] at h
      cases h
  · obtain ⟨a, ha, hne⟩ := misfit_of_not_fits hfits
    rw [lookup_of_misfit ha hne] at h
    cases h

end

/-! ## Templates -/

namespace Template

/-- The reference directives of a template with their spans, in order. -/
def directives (t : Template) : List (Spanned RefDirective) :=
  t.nodes.filterMap fun n => n.value.ref?.map (⟨·, n.span⟩)

/-- The reference directives that point at nothing in a registry. -/
def dangling (t : Template) (registry : Registry) : List (Spanned RefDirective) :=
  t.directives.filter fun d => ¬ registry.Holds d.value.target

end Template

/-- What is reported of a directive that points at nothing, in a template at a path. -/
def danglingFinding (path : String) (severity : Severity) :
    Spanned Template.RefDirective → Finding
  | ⟨r, span⟩ => ⟨path, severity, .danglingReference,
      s!"{r.target.text} not found (directive at normalized offset {span.start}..{span.stop})"⟩

namespace Template

/-- The entry that a node points at, if it is a reference that points at one. -/
def Node.target? (registry : Registry) (n : Node) : Option Entry :=
  n.ref?.bind fun r => registry.get? r.target.collection r.target.id

/-- What is reported of a node that points at nothing. -/
def missing? (registry : Registry) (n : Spanned Node) : Option (Spanned ResolveError) :=
  n.value.ref?.bind fun r =>
    if registry.Holds r.target then none else some ⟨.notFound r.target, n.span⟩

/-- **One more node** adds one target, and a failure if the node points at nothing. -/
theorem add_eq (registry : Registry) (found : Found) (n : Spanned Node) :
    found.add registry n = ⟨found.targets ++ [n.value.target? registry],
      found.failures ++ (missing? registry n).toList⟩ := by
  obtain ⟨node, span⟩ := n
  cases node with
  | literal text => simp [Found.add, Node.target?, missing?, Node.ref?]
  | dice d => simp [Found.add, Node.target?, missing?, Node.ref?]
  | ref r =>
    by_cases hheld : registry.Holds r.target
    · obtain ⟨e, he⟩ := id hheld
      simp [Found.add, Node.target?, missing?, Node.ref?, resolve_found he, he, hheld]
    · simp [Found.add, Node.target?, missing?, Node.ref?, resolve_missing hheld,
        not_holds_iff.1 hheld, hheld]

/-- **A walk over nodes** adds their targets and their failures, in order. -/
theorem foldl_add (registry : Registry) (nodes : List (Spanned Node)) (found : Found) :
    nodes.foldl (Found.add registry) found =
      ⟨found.targets ++ nodes.map (·.value.target? registry),
        found.failures ++ nodes.filterMap (missing? registry)⟩ := by
  -- from any start, since one more node changes what is found
  induction nodes generalizing found with
  | nil => simp
  | cons n nodes ih =>
    rw [List.foldl_cons, ih, add_eq]
    cases hmissing : missing? registry n <;> simp [hmissing]

end Template

section

variable (t : Template) (registry : Registry)

theorem targets_resolve :
    (t.resolve registry).targets = t.nodes.map (·.value.target? registry) := by
  unfold Template.resolve
  rw [Template.foldl_add]
  rfl

/-- **The references that fail are those that point at nothing**, and each is not found. -/
theorem failures_resolve :
    (t.resolve registry).failures =
      (t.dangling registry).map fun d => ⟨.notFound d.value.target, d.span⟩ := by
  unfold Template.resolve Template.dangling Template.directives
  rw [Template.foldl_add, List.filter_filterMap, List.map_filterMap]
  refine List.filterMap_congr fun n _ => ?_
  cases hr : n.value.ref? with
  | none => simp [Template.missing?, hr]
  | some r =>
    by_cases h : registry.Holds r.target <;> simp [Template.missing?, Option.filter, hr, h]

/-- Each node is paired with its own target. -/
theorem zip_targets : t.nodes.zip (t.resolve registry).targets =
    t.nodes.map fun n => (n, n.value.target? registry) := by
  rw [targets_resolve]
  have hzip : (t.nodes.map id).zip (t.nodes.map fun n => n.value.target? registry) =
      t.nodes.map fun n => (n, n.value.target? registry) := List.zip_map'
  rwa [List.map_id] at hzip

/-- **Each reference is linked to what is registered under its target.** -/
theorem links_resolve : (t.resolve registry).links =
    t.directives.map fun d =>
      (d.value, registry.get? d.value.target.collection d.value.target.id) := by
  show ((t.nodes.zip (t.resolve registry).targets).filterMap _) = _
  rw [zip_targets, List.filterMap_map, Template.directives, List.map_filterMap]
  refine List.filterMap_congr fun n _ => ?_
  cases hr : n.value.ref? with
  | none => simp [hr]
  | some r => simp [Template.Node.target?, hr]

/-- Each node is rendered with its own target. -/
theorem render_resolve : (t.resolve registry).render =
    String.join (t.nodes.map fun n => n.value.render (n.value.target? registry)) := by
  show String.join ((t.nodes.zip (t.resolve registry).targets).map _) = _
  rw [zip_targets, List.map_map]
  rfl

end

section

variable {f : TemplateField}

theorem findings_of_malformed {err : ParseError} (h : f.template = .error err) (registry : Registry)
    (severity : Severity) : f.findings registry severity =
      [⟨f.path, .error, .parse, s!"{err.message} (offsets into the normalized text)"⟩] := by
  unfold TemplateField.findings TemplateField.resolve
  rw [h]
  rfl

/-- **A template is reported once for each of its references that points at nothing.** -/
theorem findings_of_parsed {t : Template} (h : f.template = .ok t) (registry : Registry)
    (severity : Severity) : f.findings registry severity =
      (t.dangling registry).map (danglingFinding f.path severity) := by
  have hresolve : f.resolve registry = .ok (t.resolve registry) := by
    unfold TemplateField.resolve
    rw [h]
    rfl
  unfold TemplateField.findings
  rw [hresolve]
  simp only [failures_resolve, List.map_map]
  refine List.map_congr_left ?_
  rintro ⟨r, span⟩ -
  have hmessage : (ResolveError.notFound r.target).message ++ " (directive at normalized offset " =
      r.target.text ++ " not found (directive at normalized offset " := by
    show r.target.text ++ " not found" ++ _ = _
    rw [String.append_assoc]
    rfl
  show (⟨f.path, severity, .danglingReference, (ResolveError.notFound r.target).message ++
    " (directive at normalized offset " ++ _ ++ _ ++ _ ++ _⟩ : Finding) = _
  rw [hmessage]
  rfl

end

/-! ## Errors and fitness -/

/-- **An entry is fit for use unless one of its findings is an error**: whatever makes it unfit is
reported as one. -/
theorem isValid_of_clean {e : Entry} {c : Collection} {registry : Registry} {config : BuildConfig}
    (h : Clean (e.findings c registry config)) : e.isValid c registry config = true := by
  unfold Entry.findings at h
  rw [clean_append, clean_append, clean_append, clean_flatMap] at h
  obtain ⟨⟨⟨hrules, hreferences⟩, hdice⟩, htemplates⟩ := h
  refine isValid_iff.2 ⟨hrules, ?_, ?_, ?_⟩
  · intro f hf
    cases hlookup : f.lookup registry with
    | ok e => rfl
    | error err =>
      have hfound : f.finding? registry = some ⟨f.path, .error, err.kind, err.message⟩ := by
        unfold ReferenceField.finding?
        rw [hlookup]
      exact absurd rfl (hreferences _ (List.mem_filterMap.2 ⟨f, hf, hfound⟩))
  · intro f hf
    cases hformula : f.formula with
    | ok φ => rfl
    | error err =>
      have hfound : f.finding? = some ⟨f.path, .error, .parse,
          s!"invalid dice '{f.source}': {err.message}"⟩ := by
        unfold DiceField.finding?
        rw [hformula]
      exact absurd rfl (hdice _ (List.mem_filterMap.2 ⟨f, hf, hfound⟩))
  · intro f hf
    unfold TemplateField.isUsable
    cases htemplate : f.template with
    | ok t => rfl
    | error err =>
      have hclean := htemplates f hf
      rw [findings_of_malformed htemplate] at hclean
      exact absurd rfl (hclean _ List.mem_cons_self)

end Rulebook
