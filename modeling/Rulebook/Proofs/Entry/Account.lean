import Rulebook.Proofs.Ascending
import Rulebook.Proofs.Entry.Content
import Rulebook.Proofs.Entry.Distinct
import Rulebook.Proofs.Entry.Lookup

/-!
# What a resolved entry says of its fields

Each reference, formula and template of an entry is looked up or parsed once, and what comes of it
is found at its path: either a value, or diagnostics. The paths differ, so that neither a value nor
a diagnostic of one field is taken for one of another.

* `ResolvedEntry.reportsAt`: the diagnostics at a path.
* `Entry.reports`: the findings on the contents of an entry, path by path. `findings_at`: they are
  all that is found at these paths.
* `byPath_get?_iff`: the values of fields with different paths.
* `ResolvedEntry.Reports`, `ResolvedEntry.Keeps`: the diagnostics and the values of all fields.
* `resolve_accounts`: **a resolved entry accounts for every field, and for nothing else.**
-/

namespace Rulebook

/-- The diagnostics of an entry at a path. -/
def ResolvedEntry.reportsAt (r : ResolvedEntry) (path : String) : List Diagnostic :=
  r.diagnostics.filter (·.field = path)

/-- The findings of the rules on an entry itself, apart from the collection that it is in. -/
def Entry.ruleFindings (config : BuildConfig) : Entry → List Finding
  | spell s => s.findings config
  | record _ => []

/-! ## Findings path by path -/

/-- Groups of findings at different paths can be told apart again. -/
theorem filter_group {groups : List (String × List Finding)} (hpaths : (groups.map (·.1)).Nodup)
    (hfields : ∀ g ∈ groups, ∀ f ∈ g.2, f.field = g.1) {path : String} {findings : List Finding}
    (h : (path, findings) ∈ groups) :
    (groups.flatMap (·.2)).filter (·.field = path) = findings := by
  induction groups with
  | nil => cases h
  | cons g groups ih =>
    obtain ⟨hfirst, hrest⟩ := List.forall_mem_cons.1 hfields
    rw [List.map_cons, List.nodup_cons] at hpaths
    rw [List.flatMap_cons, List.filter_append]
    rcases List.mem_cons.1 h with rfl | h
    · have hself : findings.filter (·.field = path) = findings :=
        List.filter_eq_self.2 fun f hf => decide_eq_true (hfirst f hf)
      have hothers : (groups.flatMap (·.2)).filter (·.field = path) = [] := by
        refine List.filter_eq_nil_iff.2 fun f hf hpath => ?_
        obtain ⟨g', hg', hf⟩ := List.mem_flatMap.1 hf
        have hkey : g'.1 = path := (hrest g' hg' f hf).symm.trans (of_decide_eq_true hpath)
        have hmem := List.mem_map_of_mem (f := Prod.fst) hg'
        rw [hkey] at hmem
        exact hpaths.1 hmem
      rw [hself, hothers, List.append_nil]
    · have hother : g.2.filter (·.field = path) = [] := by
        refine List.filter_eq_nil_iff.2 fun f hf hpath => ?_
        have hkey : g.1 = path := (hfirst f hf).symm.trans (of_decide_eq_true hpath)
        exact hpaths.1 (hkey ▸ List.mem_map_of_mem (f := Prod.fst) h)
      rw [hother, List.nil_append, ih hpaths.2 hrest h]

section

variable (e : Entry) (c : Collection) (registry : Registry) (config : BuildConfig)

/-- **The findings on the contents of an entry**, path by path. -/
def Entry.reports : List (String × List Finding) :=
  e.referenceFields.map (fun f => (f.path, (f.finding? registry).toList)) ++
  e.diceFields.map (fun f => (f.path, f.finding?.toList)) ++
  e.templateFields.map fun f => (f.path, f.findings registry config.templateReferenceSeverity)

theorem reports_paths : (e.reports registry config).map (·.1) = e.fieldPaths := by
  unfold Entry.reports Entry.fieldPaths
  rw [List.map_append, List.map_append, List.map_map, List.map_map, List.map_map]
  rfl

theorem reports_findings :
    (e.reports registry config).flatMap (·.2) = e.contentFindings registry config := by
  unfold Entry.reports Entry.contentFindings Entry.lookupFindings Entry.diceFindings
    Entry.templateFindings
  rw [List.flatMap_append, List.flatMap_append, List.flatMap_map, List.flatMap_map,
    List.flatMap_map, List.filterMap_eq_flatMap_toList, List.filterMap_eq_flatMap_toList]

theorem reports_fields : ∀ g ∈ e.reports registry config, ∀ f ∈ g.2, f.field = g.1 := by
  unfold Entry.reports
  refine List.forall_mem_append.2 ⟨List.forall_mem_append.2 ⟨?_, ?_⟩, ?_⟩
  · intro g hg f hf
    obtain ⟨field, -, rfl⟩ := List.mem_map.1 hg
    exact (lookup_found (Option.mem_toList.1 hf)).1
  · intro g hg f hf
    obtain ⟨field, -, rfl⟩ := List.mem_map.1 hg
    exact (dice_found (Option.mem_toList.1 hf)).1
  · intro g hg f hf
    obtain ⟨field, -, rfl⟩ := List.mem_map.1 hg
    exact (template_found hf).1

/-- **What is found at the path of a field is about its content**: no rule reports there. -/
theorem findings_at {path : String} {findings : List Finding}
    (h : (path, findings) ∈ e.reports registry config) :
    (e.findings c registry config).filter (·.field = path) = findings := by
  have hpath : path ∈ e.fieldPaths := by
    rw [← reports_paths e registry config]
    exact List.mem_map_of_mem (f := Prod.fst) h
  have hrules : (e.structuralFindings c config).filter (·.field = path) = [] := by
    refine List.filter_eq_nil_iff.2 fun f hf hfield => ?_
    exact rules_apart e c config f hf (of_decide_eq_true hfield ▸ hpath)
  have hnodup := fieldPaths_nodup e
  rw [← reports_paths e registry config] at hnodup
  rw [findings_eq, List.filter_append, hrules, List.nil_append, ← reports_findings]
  exact filter_group hnodup (reports_fields e registry config) h

theorem reportsAt_perm (path : String) : ((e.resolve c registry config).reportsAt path).Perm
    (((e.findings c registry config).filter (·.field = path)).map (·.at c e.id)) := by
  unfold ResolvedEntry.reportsAt
  refine ((sorted_perm _).filter _).trans ?_
  rw [List.filter_map]
  exact .refl _

/-- **The diagnostics at the path of a field** are about its content. -/
theorem reportsAt_field {path : String} {findings : List Finding}
    (h : (path, findings) ∈ e.reports registry config) :
    ((e.resolve c registry config).reportsAt path).Perm (findings.map (·.at c e.id)) := by
  have hperm := reportsAt_perm e c registry config path
  rwa [findings_at e c registry config h] at hperm

/-- What is found about a field that is looked up or parsed once is all at its path. -/
theorem reportsAt_option {path : String} {finding? : Option Finding}
    (h : (path, finding?.toList) ∈ e.reports registry config) :
    (e.resolve c registry config).reportsAt path = (finding?.map (·.at c e.id)).toList := by
  have hperm := reportsAt_field e c registry config h
  cases finding? with
  | none => exact hperm.eq_nil
  | some f => exact hperm.eq_singleton

theorem reportsAt_reference {path : String} {target : Reference} {expected : Option Collection}
    (h : e.Refers path target expected) : (e.resolve c registry config).reportsAt path =
      (((ReferenceField.mk path target expected).finding? registry).map (·.at c e.id)).toList := by
  have hfield : ⟨path, target, expected⟩ ∈ e.referenceFields := mem_referenceFields_iff.2 h
  refine reportsAt_option e c registry config ?_
  exact List.mem_append_left _ (List.mem_append_left _ (List.mem_map.2 ⟨_, hfield, rfl⟩))

theorem reportsAt_dice {path source : String} (h : e.Rolls path source) :
    (e.resolve c registry config).reportsAt path =
      ((DiceField.mk path source).finding?.map (·.at c e.id)).toList := by
  have hfield : ⟨path, source⟩ ∈ e.diceFields := mem_diceFields_iff.2 h
  refine reportsAt_option e c registry config ?_
  exact List.mem_append_left _ (List.mem_append_right _ (List.mem_map.2 ⟨_, hfield, rfl⟩))

theorem reportsAt_template {path source : String} (h : e.Describes path source) :
    ∃ required, ((e.resolve c registry config).reportsAt path).Perm
      (((TemplateField.mk path source required).findings registry
        config.templateReferenceSeverity).map (·.at c e.id)) := by
  obtain ⟨⟨path, source, required⟩, hfield, rfl, rfl⟩ := mem_templateFields_iff.2 h
  refine ⟨required, reportsAt_field e c registry config ?_⟩
  exact List.mem_append_right _ (List.mem_map.2 ⟨_, hfield, rfl⟩)

/-! ## Rules -/

theorem placement_field : ∀ f ∈ e.placement c, f.field = "id" := by
  cases e with
  | spell s => exact forall_mem_findIf _ rfl
  | record r => exact forall_mem_findIf _ rfl

theorem structuralFindings_eq :
    e.structuralFindings c config = e.placement c ++ e.ruleFindings config := by
  cases e <;> rfl

theorem ruleFindings_not_id : ∀ f ∈ e.ruleFindings config, f.field ≠ "id" := by
  cases e with
  | spell s => exact fun f hf => spell_rules_not_id s config _ (List.mem_map_of_mem hf)
  | record r => exact List.forall_mem_nil _

/-- **What is found at the id** is that the entry is in the wrong collection. -/
theorem findings_at_id :
    (e.findings c registry config).filter (·.field = "id") = e.placement c := by
  have hplacement : (e.placement c).filter (·.field = "id") = e.placement c :=
    List.filter_eq_self.2 fun f hf => decide_eq_true (placement_field e c f hf)
  have hrules : (e.ruleFindings config).filter (·.field = "id") = [] :=
    List.filter_eq_nil_iff.2 fun f hf hid =>
      ruleFindings_not_id e config f hf (of_decide_eq_true hid)
  have hcontents : (e.contentFindings registry config).filter (·.field = "id") = [] := by
    rw [← reports_findings]
    refine List.filter_eq_nil_iff.2 fun f hf hid => ?_
    obtain ⟨g, hg, hf⟩ := List.mem_flatMap.1 hf
    have hpath : g.1 ∈ e.fieldPaths := by
      rw [← reports_paths e registry config]
      exact List.mem_map_of_mem hg
    rw [← reports_fields e registry config g hg f hf, of_decide_eq_true hid] at hpath
    exact id_not_fieldPath e hpath
  rw [findings_eq, structuralFindings_eq, List.filter_append, List.filter_append, hplacement,
    hrules, hcontents, List.append_nil, List.append_nil]

theorem reportsAt_id :
    ((e.resolve c registry config).reportsAt "id").Perm ((e.placement c).map (·.at c e.id)) := by
  have hperm := reportsAt_perm e c registry config "id"
  rwa [findings_at_id] at hperm

/-- **The structural findings apart from the one at the id** are those of the rules. -/
theorem findings_of_rules : ((e.findings c registry config).filter fun f =>
    f.kind = .structural ∧ f.field ≠ "id") = e.ruleFindings config := by
  have hplacement : ((e.placement c).filter fun f =>
      f.kind = .structural ∧ f.field ≠ "id") = [] :=
    List.filter_eq_nil_iff.2 fun f hf hid =>
      (of_decide_eq_true hid).2 (placement_field e c f hf)
  have hrules : ((e.ruleFindings config).filter fun f => f.kind = .structural ∧ f.field ≠ "id") =
      e.ruleFindings config := by
    refine List.filter_eq_self.2 fun f hf => decide_eq_true ⟨?_, ruleFindings_not_id e config f hf⟩
    refine structural_kind e c config f ?_
    rw [structuralFindings_eq]
    exact List.mem_append_right _ hf
  have hcontents : ((e.contentFindings registry config).filter fun f =>
      f.kind = .structural ∧ f.field ≠ "id") = [] :=
    List.filter_eq_nil_iff.2 fun f hf hkind =>
      (contentFindings_ofContent e registry config f hf).1 (of_decide_eq_true hkind).1
  rw [findings_eq, structuralFindings_eq, List.filter_append, List.filter_append, hplacement,
    hrules, hcontents, List.append_nil, List.nil_append]

theorem content_of_fieldPath {path : String} (h : path ∈ e.fieldPaths) :
    (∃ target expected, e.Refers path target expected) ∨ (∃ source, e.Rolls path source) ∨
      ∃ source, e.Describes path source := by
  rcases List.mem_append.1 h with h | h
  · rcases List.mem_append.1 h with h | h
    · obtain ⟨f, hf, rfl⟩ := List.mem_map.1 h
      exact .inl ⟨_, _, mem_referenceFields_iff.1 hf⟩
    · obtain ⟨f, hf, rfl⟩ := List.mem_map.1 h
      exact .inr (.inl ⟨_, mem_diceFields_iff.1 hf⟩)
  · obtain ⟨f, hf, rfl⟩ := List.mem_map.1 h
    exact .inr (.inr ⟨_, mem_templateFields_iff.1 ⟨f, hf, rfl, rfl⟩⟩)

/-- A finding that is not of a rule is about a field. -/
theorem field_of_finding {f : Finding} (hf : f ∈ e.findings c registry config)
    (hkind : f.kind ≠ .structural) : f.field ∈ e.fieldPaths := by
  rw [findings_eq] at hf
  rcases List.mem_append.1 hf with hf | hf
  · exact absurd (structural_kind e c config f hf) hkind
  · rw [← reports_findings] at hf
    obtain ⟨g, hg, hf⟩ := List.mem_flatMap.1 hf
    rw [reports_fields e registry config g hg f hf, ← reports_paths e registry config]
    exact List.mem_map_of_mem hg

end

/-! ## Values path by path -/

/-- **The values of fields with different paths**: each is found at the path of its field. -/
theorem byPath_get?_iff {α β : Type} {fields : List α} {path : α → String} {value? : α → Option β}
    (h : (fields.map path).Nodup) {p : String} {v : β} :
    (byPath fields path value?).get? p = some v ↔ ∃ f ∈ fields, path f = p ∧ value? f = some v := by
  have hkeys : ((fields.filterMap fun f => (value? f).map (path f, ·)).map (·.1)).Nodup := by
    refine h.sublist (filterMap_sublist ?_ fields)
    intro f pair hpair
    obtain ⟨v, -, rfl⟩ := Option.map_eq_some_iff.1 hpair
    rfl
  unfold byPath
  rw [Std.ExtTreeMap.get?_eq_getElem?, ofList_getElem?_iff hkeys, List.mem_filterMap]
  constructor
  · rintro ⟨f, hf, hv⟩
    obtain ⟨v', hv', heq⟩ := Option.map_eq_some_iff.1 hv
    obtain ⟨rfl, rfl⟩ := Prod.mk.inj heq
    exact ⟨f, hf, rfl, hv'⟩
  · rintro ⟨f, hf, rfl, hv⟩
    exact ⟨f, hf, Option.map_eq_some_iff.2 ⟨v, hv, rfl⟩⟩

/-- Where every field has a value, there are as many values as fields. -/
theorem byPath_size {α β : Type} {fields : List α} {path : α → String} {value : α → β}
    (h : (fields.map path).Nodup) :
    (byPath fields path fun f => some (value f)).size = fields.length := by
  have hpairs : fields.filterMap (fun f => (some (value f)).map (path f, ·)) =
      fields.map fun f => (path f, value f) :=
    congrFun (List.filterMap_eq_map (f := fun f => (path f, value f))) fields
  have hkeys : ((fields.map fun f => (path f, value f)).map (·.1)).Nodup := by
    rw [List.map_map]
    exact h
  unfold byPath
  rw [hpairs, Std.ExtTreeMap.size_ofList (distinct_of_nodup hkeys), List.length_map]

/-! ## The account of an entry -/

/-- **The diagnostics of a resolved entry**, field by field. -/
structure ResolvedEntry.Reports (r : ResolvedEntry) (e : Entry) (c : Collection)
    (registry : Registry) (config : BuildConfig) : Prop where
  /-- A reference into a collection that its field does not accept is one error. -/
  misfit : ∀ path target accepted, e.Refers path target (some accepted) →
    target.collection ≠ accepted → r.reportsAt path =
      [⟨c, e.id, path, .error, .wrongCollection,
        s!"expected a reference into {accepted.name}, found {target.text}"⟩]
  /-- One that the field accepts is one error if its target is missing, and none otherwise. -/
  missing : ∀ path target expected, e.Refers path target expected →
    (∀ accepted ∈ expected, target.collection = accepted) → ¬ registry.Holds target →
      r.reportsAt path =
        [⟨c, e.id, path, .error, .danglingReference, s!"{target.text} not found"⟩]
  held : ∀ path target expected, e.Refers path target expected →
    (∀ accepted ∈ expected, target.collection = accepted) → registry.Holds target →
      r.reportsAt path = []
  /-- A formula is one error if it is malformed, and none otherwise. -/
  malformedFormula : ∀ path source err, e.Rolls path source →
    Formula.parse source = .error err → r.reportsAt path =
      [⟨c, e.id, path, .error, .parse, s!"invalid dice '{source}': {err.message}"⟩]
  formula : ∀ path source φ, e.Rolls path source → Formula.parse source = .ok φ →
    r.reportsAt path = []
  /-- A template is one error if it is malformed, -/
  malformedTemplate : ∀ path source err, e.Describes path source →
    Template.parse source = .error err → r.reportsAt path =
      [⟨c, e.id, path, .error, .parse, s!"{err.message} (offsets into the normalized text)"⟩]
  /-- and otherwise one problem for each of its references that points at nothing. -/
  template : ∀ path source t, e.Describes path source → Template.parse source = .ok t →
    (r.reportsAt path).Perm ((t.dangling registry).map fun d =>
      (danglingFinding path config.templateReferenceSeverity d).at c e.id)
  /-- A spell outside the spells is one error at the id, and so is any other entry among them. -/
  placed : (e.isSpell = true ↔ c = .spells) → r.reportsAt "id" = []
  misplacedSpell : e.isSpell = true → c ≠ .spells → r.reportsAt "id" =
    [⟨c, e.id, "id", .error, .structural, s!"spell entries belong in spells, not {c.name}"⟩]
  misplacedRecord : e.isSpell = false → c = .spells → r.reportsAt "id" =
    [⟨c, e.id, "id", .error, .structural, "spells collection holds a non-spell entry"⟩]
  /-- What is found by the rules on a spell is reported as it is found. -/
  rules : (r.diagnostics.filter fun d => d.kind = .structural ∧ d.field ≠ "id").Perm
    ((e.ruleFindings config).map (·.at c e.id))
  /-- There is nothing else. -/
  nothingElse : ∀ d ∈ r.diagnostics, d.kind = .structural ∨
    (∃ target expected, e.Refers d.field target expected) ∨
      (∃ source, e.Rolls d.field source) ∨ ∃ source, e.Describes d.field source

/-- **The values of a resolved entry**, field by field. -/
structure ResolvedEntry.Keeps (r : ResolvedEntry) (e : Entry) (registry : Registry) : Prop where
  /-- There is one row for each reference. -/
  row : ∀ path target expected, e.Refers path target expected → path ∈ r.references
  rows : ∀ path ∈ r.references, ∃ target expected, e.Refers path target expected
  count : r.references.size = e.referenceFields.length
  /-- It has a target exactly if nothing is reported at its path: the one that is registered. -/
  found : ∀ path target expected, e.Refers path target expected →
    ((r.reference? path).isSome = true ↔ r.reportsAt path = [])
  target : ∀ path target expected, e.Refers path target expected → ∀ x,
    r.reference? path = some x → registry.get? target.collection target.id = some x
  /-- The formulas are those that are parsed, -/
  dice : ∀ path φ, r.dice.get? path = some φ ↔
    ∃ source, e.Rolls path source ∧ Formula.parse source = .ok φ
  /-- and the texts those of the templates that are parsed. -/
  rendered : ∀ path text, r.rendered? path = some text ↔
    ∃ source t, e.Describes path source ∧ Template.parse source = .ok t ∧
      (t.resolve registry).render = text

section

variable (e : Entry) (c : Collection) (registry : Registry) (config : BuildConfig)

theorem resolve_reports : (e.resolve c registry config).Reports e c registry config where
  misfit path target accepted h hne := by
    rw [reportsAt_reference e c registry config h, finding?_of_misfit rfl hne]
    rfl
  missing path target expected h hfits hmissing := by
    have hfits : (ReferenceField.mk path target expected).Fits := hfits
    rw [reportsAt_reference e c registry config h, finding?_of_missing hfits hmissing]
    rfl
  held path target expected h hfits hheld := by
    have hfits : (ReferenceField.mk path target expected).Fits := hfits
    rw [reportsAt_reference e c registry config h, finding?_of_held hfits hheld]
    rfl
  malformedFormula path source err h herr := by
    rw [reportsAt_dice e c registry config h, DiceField.finding?, DiceField.formula, herr]
    rfl
  formula path source φ h hφ := by
    rw [reportsAt_dice e c registry config h, DiceField.finding?, DiceField.formula, hφ]
    rfl
  malformedTemplate path source err h herr := by
    obtain ⟨required, hperm⟩ := reportsAt_template e c registry config h
    have herr : (TemplateField.mk path source required).template = .error err := herr
    rw [findings_of_malformed herr] at hperm
    exact hperm.eq_singleton
  template path source t h ht := by
    obtain ⟨required, hperm⟩ := reportsAt_template e c registry config h
    have ht : (TemplateField.mk path source required).template = .ok t := ht
    rw [findings_of_parsed ht, List.map_map] at hperm
    exact hperm
  placed h := by
    have hperm := reportsAt_id e c registry config
    cases e with
    | spell s =>
      have hc : c = .spells := h.1 rfl
      subst hc
      exact hperm.eq_nil
    | record r =>
      have hc : c ≠ .spells := fun hc => Bool.false_ne_true (h.2 hc)
      rw [Entry.placement, findIf, if_neg (by simpa using hc)] at hperm
      exact hperm.eq_nil
  misplacedSpell h hc := by
    have hperm := reportsAt_id e c registry config
    cases e with
    | spell s =>
      rw [Entry.placement, findIf, if_pos (by simpa using hc)] at hperm
      exact hperm.eq_singleton
    | record r => cases h
  misplacedRecord h hc := by
    have hperm := reportsAt_id e c registry config
    cases e with
    | spell s => cases h
    | record r =>
      subst hc
      exact hperm.eq_singleton
  rules := by
    refine ((sorted_perm _).filter _).trans ?_
    rw [List.filter_map]
    exact .of_eq (congrArg _ (findings_of_rules e c registry config))
  nothingElse d hd := by
    obtain ⟨f, hf, rfl⟩ := mem_resolve_iff.1 hd
    by_cases hkind : f.kind = .structural
    · exact .inl hkind
    · exact .inr (content_of_fieldPath e (field_of_finding e c registry config hf hkind))

theorem fieldPaths_apart (e : Entry) : (e.referenceFields.map (·.path)).Nodup ∧
    (e.diceFields.map (·.path)).Nodup ∧ (e.templateFields.map (·.path)).Nodup := by
  obtain ⟨hfirst, htemplates, -⟩ := List.nodup_append.1 (fieldPaths_nodup e)
  obtain ⟨hreferences, hdice, -⟩ := List.nodup_append.1 hfirst
  exact ⟨hreferences, hdice, htemplates⟩

/-- The row of a reference has what its field is looked up as. -/
theorem row_of_refers {path : String} {target : Reference} {expected : Option Collection}
    (h : e.Refers path target expected) : (e.resolve c registry config).references[path]? =
      some ((ReferenceField.mk path target expected).lookup registry).toOption :=
  (byPath_get?_iff (fieldPaths_apart e).1).2 ⟨_, mem_referenceFields_iff.2 h, rfl, rfl⟩

theorem reference?_of_refers {path : String} {target : Reference} {expected : Option Collection}
    (h : e.Refers path target expected) : (e.resolve c registry config).reference? path =
      ((ReferenceField.mk path target expected).lookup registry).toOption := by
  unfold ResolvedEntry.reference?
  rw [Std.ExtTreeMap.get?_eq_getElem?, row_of_refers e c registry config h, Option.join_some]

theorem resolve_keeps : (e.resolve c registry config).Keeps e registry where
  row path target expected h := by
    rw [Std.ExtTreeMap.mem_iff_isSome_getElem?, row_of_refers e c registry config h]
    rfl
  rows path h := by
    rw [Std.ExtTreeMap.mem_iff_isSome_getElem?] at h
    obtain ⟨row, hrow⟩ := Option.isSome_iff_exists.1 h
    obtain ⟨f, hf, rfl, -⟩ := (byPath_get?_iff (fieldPaths_apart e).1).1 hrow
    exact ⟨_, _, mem_referenceFields_iff.1 hf⟩
  count := byPath_size (fieldPaths_apart e).1
  found path target expected h := by
    rw [reference?_of_refers e c registry config h, reportsAt_reference e c registry config h]
    unfold ReferenceField.finding?
    cases (ReferenceField.mk path target expected).lookup registry <;> simp [Except.toOption]
  target path target expected h x hx := by
    rw [reference?_of_refers e c registry config h] at hx
    exact get?_of_lookup (toOption_eq_some_iff.1 hx)
  dice path φ := by
    refine (byPath_get?_iff (fieldPaths_apart e).2.1).trans ?_
    constructor
    · rintro ⟨f, hf, rfl, hφ⟩
      exact ⟨f.source, mem_diceFields_iff.1 hf, toOption_eq_some_iff.1 hφ⟩
    · rintro ⟨source, h, hφ⟩
      exact ⟨⟨path, source⟩, mem_diceFields_iff.2 h, rfl, toOption_eq_some_iff.2 hφ⟩
  rendered path text := by
    refine Option.map_eq_some_iff.trans ?_
    constructor
    · rintro ⟨resolved, hresolved, rfl⟩
      obtain ⟨f, hf, rfl, hvalue⟩ := (byPath_get?_iff (fieldPaths_apart e).2.2).1 hresolved
      obtain ⟨t, ht, rfl⟩ := map_eq_ok (toOption_eq_some_iff.1 hvalue)
      exact ⟨f.source, t, mem_templateFields_iff.1 ⟨f, hf, rfl, rfl⟩, ht, rfl⟩
    · rintro ⟨source, t, h, ht, rfl⟩
      obtain ⟨f, hf, rfl, rfl⟩ := mem_templateFields_iff.2 h
      have hvalue : (f.resolve registry).toOption = some (t.resolve registry) := by
        rw [TemplateField.resolve, TemplateField.template, ht]
        rfl
      exact ⟨_, (byPath_get?_iff (fieldPaths_apart e).2.2).2 ⟨f, hf, rfl, hvalue⟩, rfl⟩

/-- **A resolved entry accounts for every field, and for nothing else.** Whatever is wrong with a
reference, a formula or a template is reported at its path, once, and what is not wrong is found
there. -/
theorem resolve_accounts : (e.resolve c registry config).Reports e c registry config ∧
    (e.resolve c registry config).Keeps e registry :=
  ⟨resolve_reports e c registry config, resolve_keeps e c registry config⟩

end

/-- A cantrip with a school that is a skill, and two conditions. -/
def ember : Spell where
  id := "ember"
  name := "Ember"
  level := 0
  school := ⟨.skills, "fire"⟩
  castingTimes := [⟨1, .action, none⟩]
  range := .touch
  durations := [.instantaneous]
  conditions := [⟨.conditions, "prone"⟩, ⟨.conditions, "dazed"⟩]
  desc := "Burns."

/-- A registry with one of the conditions. -/
def prone : Registry := .ofBatches [.unlabelled .conditions [.record { id := "prone" }]]

/-- The school is of the wrong collection, whether or not it is there. Of the conditions one is
missing, and the other one is found. -/
theorem resolve_accounts_ember :
    (Entry.spell ember).Refers "school" ⟨.skills, "fire"⟩ (some .magicSchools) ∧
    ((Entry.spell ember).resolve .spells prone {}).reportsAt "school" =
      [⟨.spells, "ember", "school", .error, .wrongCollection,
        "expected a reference into magicSchools, found skills/fire"⟩] ∧
    ¬ prone.Holds ⟨.conditions, "dazed"⟩ ∧
    ((Entry.spell ember).resolve .spells prone {}).reportsAt "conditions[1]" =
      [⟨.spells, "ember", "conditions[1]", .error, .danglingReference,
        "conditions/dazed not found"⟩] ∧
    prone.Holds ⟨.conditions, "prone"⟩ ∧
    (((Entry.spell ember).resolve .spells prone {}).reference? "conditions[0]").isSome = true := by
  obtain ⟨hreports, hkeeps⟩ := resolve_accounts (.spell ember) .spells prone {}
  have hschool : (Entry.spell ember).Refers "school" ⟨.skills, "fire"⟩ (some .magicSchools) :=
    .school ember
  have hprone : (Entry.spell ember).Refers "conditions[0]" ⟨.conditions, "prone"⟩
      (some .conditions) := .condition (s := ember) (i := 0) rfl
  have hdazed : (Entry.spell ember).Refers "conditions[1]" ⟨.conditions, "dazed"⟩
      (some .conditions) := .condition (s := ember) (i := 1) rfl
  have hheld : prone.Holds ⟨.conditions, "prone"⟩ := by decide
  have hmissing : ¬ prone.Holds ⟨.conditions, "dazed"⟩ := by decide
  refine ⟨hschool, hreports.misfit _ _ _ hschool (by decide), hmissing,
    hreports.missing _ _ _ hdazed (by simp) hmissing, hheld, ?_⟩
  exact (hkeeps.found _ _ _ hprone).2 (hreports.held _ _ _ hprone (by simp) hheld)

end Rulebook
