import Rulebook.Proofs.Entry.Account

/-!
# What an entry sees of a registry

An entry that is resolved sees whether the entries that it mentions are registered, and where one of
its templates shows the name of an entry, it sees that name. It sees nothing else of a registry.

* `Entry.Mentions`: the references in an entry. `Entry.Shows`: those of them that are shown by name.
* `Entry.SeesAlike`, `Entry.ShowsAlike`: registries in which an entry sees the same.
* `mem_findings_iff`: what is found wrong with an entry is wrong with every registry, or is about a
  missing reference.
* `ResolvedEntry.ImprovesOn`, `resolve_improvesOn`: **if an entry finds what it found before, then
  there is no more wrong with it**, and only missing references are no longer reported.
* `ResolvedEntry.Alike`, `resolve_alike`, `rendered?_congr`: **an entry that sees the same is
  resolved alike**, and its texts are rendered alike if it shows the same names.
-/

namespace Rulebook

/-- **An entry mentions a reference**, in a field or in a template that is parsed. -/
inductive Entry.Mentions (e : Entry) : Reference → Prop
  | field {path : String} {target : Reference} {expected : Option Collection} :
      e.Refers path target expected → e.Mentions target
  | directive {path source : String} {t : Template} {r : Template.RefDirective} :
      e.Describes path source → Template.parse source = .ok t → r ∈ t.references →
        e.Mentions r.target

/-- **An entry shows a reference by name**, in a template that is parsed and in a directive without
a display text. -/
inductive Entry.Shows (e : Entry) : Reference → Prop
  | directive {path source : String} {t : Template} {r : Template.RefDirective} :
      e.Describes path source → Template.parse source = .ok t → r ∈ t.references →
        r.display = none → e.Shows r.target

section

variable (e : Entry) (registry registry' : Registry)

/-- What an entry mentions and finds in the first registry it also finds in the second one. -/
def Entry.FindsAgain : Prop := ∀ ref, e.Mentions ref → registry.Holds ref → registry'.Holds ref

/-- What an entry mentions it finds in both registries or in none of them. -/
def Entry.SeesAlike : Prop := ∀ ref, e.Mentions ref → (registry.Holds ref ↔ registry'.Holds ref)

/-- What an entry shows by name has the same name in both registries, if it is in them. -/
def Entry.ShowsAlike : Prop := ∀ ref, e.Shows ref →
  ∀ x x', registry.get? ref.collection ref.id = some x →
    registry'.get? ref.collection ref.id = some x' → x.displayName = x'.displayName

end

/-- **A resolved entry improves on another one** if it is the same entry with no more wrong with it,
and only missing references are no longer reported. -/
structure ResolvedEntry.ImprovesOn (r' r : ResolvedEntry) : Prop where
  entry : r'.entry = r.entry
  valid : r.valid = true → r'.valid = true
  diagnostics : r'.diagnostics.Sublist r.diagnostics
  kept : r'.diagnostics.filter (·.kind ≠ .danglingReference) =
    r.diagnostics.filter (·.kind ≠ .danglingReference)
  found : ∀ path, (r.reference? path).isSome = true → (r'.reference? path).isSome = true

/-- **Resolved entries that are alike**: the same entry, with the same wrong with it. What they
found may be different, but not whether they did. -/
structure ResolvedEntry.Alike (r r' : ResolvedEntry) : Prop where
  entry : r.entry = r'.entry
  valid : r.valid = r'.valid
  diagnostics : r.diagnostics = r'.diagnostics
  rows : ∀ path, path ∈ r.references ↔ path ∈ r'.references
  found : ∀ path, (r.reference? path).isSome = (r'.reference? path).isSome
  dice : r.dice = r'.dice
  progressions : r.progressions = r'.progressions

/-! ## Findings -/

/-- **A finding that does not depend on the registry**: a broken rule, a reference into a collection
that its field does not accept, or a malformed formula or template. -/
inductive Entry.Flawed (e : Entry) (c : Collection) (config : BuildConfig) : Finding → Prop
  | rule {x : Finding} : x ∈ e.structuralFindings c config → e.Flawed c config x
  | misfit {f : ReferenceField} {accepted : Collection} : f ∈ e.referenceFields →
      f.expected = some accepted → f.target.collection ≠ accepted →
        e.Flawed c config ⟨f.path, .error, .wrongCollection,
          (ResolveError.wrongCollection accepted f.target).message⟩
  | formula {f : DiceField} {x : Finding} : f ∈ e.diceFields → f.finding? = some x →
      e.Flawed c config x
  | template {f : TemplateField} {err : ParseError} : f ∈ e.templateFields →
      f.template = .error err →
        e.Flawed c config ⟨f.path, .error, .parse,
          s!"{err.message} (offsets into the normalized text)"⟩

/-- **A finding about a reference**, on an entry, that is reported if the reference is missing. -/
inductive Entry.Dangles (e : Entry) (config : BuildConfig) : Reference → Finding → Prop
  | field {f : ReferenceField} : f ∈ e.referenceFields → f.Fits →
      e.Dangles config f.target ⟨f.path, .error, .danglingReference,
        (ResolveError.notFound f.target).message⟩
  | directive {f : TemplateField} {t : Template} {d : Spanned Template.RefDirective} :
      f ∈ e.templateFields → f.template = .ok t → d ∈ t.directives →
        e.Dangles config d.value.target
          (danglingFinding f.path config.templateReferenceSeverity d)

theorem mem_references_of_directive {t : Template} {d : Spanned Template.RefDirective}
    (h : d ∈ t.directives) : d.value ∈ t.references := by
  obtain ⟨n, hn, hd⟩ := List.mem_filterMap.1 h
  obtain ⟨r, hr, rfl⟩ := Option.map_eq_some_iff.1 hd
  exact List.mem_filterMap.2 ⟨n, hn, hr⟩

section

variable {e : Entry} {registry registry' : Registry} {c : Collection} {config : BuildConfig}

theorem Entry.Dangles.mentions {ref : Reference} {x : Finding} (h : e.Dangles config ref x) :
    e.Mentions ref := by
  cases h with
  | field hf _ => exact .field (mem_referenceFields_iff.1 hf)
  | directive hf ht hd =>
    exact .directive (mem_templateFields_iff.1 ⟨_, hf, rfl, rfl⟩) ht
      (mem_references_of_directive hd)

theorem Entry.Dangles.kind {ref : Reference} {x : Finding} (h : e.Dangles config ref x) :
    x.kind = .danglingReference := by
  cases h <;> rfl

theorem findings_of_field {f : ReferenceField} (hf : f ∈ e.referenceFields) {x : Finding}
    (hx : f.finding? registry = some x) :
    e.Flawed c config x ∨ ∃ ref, e.Dangles config ref x ∧ ¬ registry.Holds ref := by
  by_cases hfits : f.Fits
  · by_cases hheld : registry.Holds f.target
    · rw [finding?_of_held hfits hheld] at hx
      cases hx
    · rw [finding?_of_missing hfits hheld] at hx
      cases hx
      exact .inr ⟨_, .field hf hfits, hheld⟩
  · obtain ⟨accepted, haccepted, hne⟩ := misfit_of_not_fits hfits
    rw [finding?_of_misfit haccepted hne] at hx
    cases hx
    exact .inl (.misfit hf haccepted hne)

theorem findings_of_template {f : TemplateField} (hf : f ∈ e.templateFields) {x : Finding}
    (hx : x ∈ f.findings registry config.templateReferenceSeverity) :
    e.Flawed c config x ∨ ∃ ref, e.Dangles config ref x ∧ ¬ registry.Holds ref := by
  cases ht : f.template with
  | error err =>
    rw [findings_of_malformed ht] at hx
    cases List.mem_singleton.1 hx
    exact .inl (.template hf ht)
  | ok t =>
    rw [findings_of_parsed ht] at hx
    obtain ⟨d, hd, rfl⟩ := List.mem_map.1 hx
    obtain ⟨hd, hmissing⟩ := List.mem_filter.1 hd
    exact .inr ⟨_, .directive hf ht hd, of_decide_eq_true hmissing⟩

/-- **The registry is only asked for missing references.** What is found wrong with an entry is
wrong with every registry, or is about a reference that is missing. -/
theorem mem_findings_iff {x : Finding} : x ∈ e.findings c registry config ↔
    e.Flawed c config x ∨ ∃ ref, e.Dangles config ref x ∧ ¬ registry.Holds ref := by
  unfold Entry.findings
  rw [List.mem_append, List.mem_append, List.mem_append, List.mem_filterMap, List.mem_filterMap,
    List.mem_flatMap]
  constructor
  · rintro (((hx | ⟨f, hf, hx⟩) | ⟨f, hf, hx⟩) | ⟨f, hf, hx⟩)
    · exact .inl (.rule hx)
    · exact findings_of_field hf hx
    · exact .inl (.formula hf hx)
    · exact findings_of_template hf hx
  · rintro (hflawed | ⟨ref, hdangles, hmissing⟩)
    · cases hflawed with
      | rule hx => exact .inl (.inl (.inl hx))
      | misfit hf haccepted hne =>
        exact .inl (.inl (.inr ⟨_, hf, finding?_of_misfit haccepted hne⟩))
      | formula hf hx => exact .inl (.inr ⟨_, hf, hx⟩)
      | template hf ht =>
        refine .inr ⟨_, hf, ?_⟩
        rw [findings_of_malformed ht]
        exact List.mem_singleton_self _
    · cases hdangles with
      | field hf hfits => exact .inl (.inl (.inr ⟨_, hf, finding?_of_missing hfits hmissing⟩))
      | directive hf ht hd =>
        refine .inr ⟨_, hf, ?_⟩
        rw [findings_of_parsed ht]
        exact List.mem_map.2 ⟨_, List.mem_filter.2 ⟨hd, decide_eq_true hmissing⟩, rfl⟩

/-- **An entry that finds its references again has no new finding.** -/
theorem mem_findings_mono (h : e.FindsAgain registry registry') {x : Finding}
    (hx : x ∈ e.findings c registry' config) : x ∈ e.findings c registry config := by
  rw [mem_findings_iff] at hx ⊢
  rcases hx with hflawed | ⟨ref, hdangles, hmissing⟩
  · exact .inl hflawed
  · exact .inr ⟨ref, hdangles, mt (h ref hdangles.mentions) hmissing⟩

/-- **What is found wrong with an entry apart from missing references** is found with every
registry. -/
theorem mem_findings_kept {x : Finding} (hx : x ∈ e.findings c registry config)
    (hkind : x.kind ≠ .danglingReference) : x ∈ e.findings c registry' config := by
  rw [mem_findings_iff] at hx ⊢
  rcases hx with hflawed | ⟨ref, hdangles, -⟩
  · exact .inl hflawed
  · exact absurd hdangles.kind hkind

end

/-! ## Texts -/

/-- **A template is rendered alike** by registries with the same of its references, and with the
same names for those that are shown by name. -/
theorem render_congr {t : Template} {registry registry' : Registry}
    (hheld : ∀ r ∈ t.references, registry.Holds r.target ↔ registry'.Holds r.target)
    (hname : ∀ r ∈ t.references, r.display = none →
      ∀ x x', registry.get? r.target.collection r.target.id = some x →
        registry'.get? r.target.collection r.target.id = some x' → x.displayName = x'.displayName) :
    (t.resolve registry).render = (t.resolve registry').render := by
  rw [render_resolve, render_resolve]
  refine congrArg String.join (List.map_congr_left ?_)
  rintro ⟨node, span⟩ hn
  cases node with
  | literal text => rfl
  | dice d => rfl
  | ref r =>
    have hr : r ∈ t.references := List.mem_filterMap.2 ⟨_, hn, rfl⟩
    cases hdisplay : r.display with
    | some display => simp only [Template.Node.render, hdisplay]
    | none =>
      -- without a display text the name is shown, or the directive itself if nothing is found
      simp only [Template.Node.render, Template.Node.target?, Template.Node.ref?, hdisplay,
        Option.bind_some]
      cases hx : registry.get? r.target.collection r.target.id with
      | some x =>
        obtain ⟨x', hx'⟩ := (hheld r hr).1 ⟨x, hx⟩
        rw [hx']
        exact hname r hr hdisplay x x' hx hx'
      | none =>
        cases hx' : registry'.get? r.target.collection r.target.id with
        | none => rfl
        | some x' =>
          obtain ⟨x, hfound⟩ := (hheld r hr).2 ⟨x', hx'⟩
          rw [hx] at hfound
          cases hfound

/-! ## Resolved entries -/

section

variable {e : Entry} {registry registry' : Registry} {c : Collection} {config : BuildConfig}

theorem Entry.SeesAlike.findsAgain (h : e.SeesAlike registry registry') :
    e.FindsAgain registry registry' :=
  fun ref hmentions => (h ref hmentions).1

theorem Entry.SeesAlike.symm (h : e.SeesAlike registry registry') :
    e.SeesAlike registry' registry :=
  fun ref hmentions => (h ref hmentions).symm

/-- An entry has one row for each of its references, with every registry. -/
theorem mem_rows_iff {path : String} : path ∈ (e.resolve c registry config).references ↔
    ∃ target expected, e.Refers path target expected := by
  constructor
  · exact (resolve_keeps e c registry config).rows path
  · rintro ⟨target, expected, h⟩
    exact (resolve_keeps e c registry config).row path target expected h

/-- The row of a reference has a target if the field accepts the reference and it is registered. -/
theorem reference?_isSome_iff {path : String} :
    ((e.resolve c registry config).reference? path).isSome = true ↔
      ∃ target expected, e.Refers path target expected ∧
        (∀ accepted ∈ expected, target.collection = accepted) ∧ registry.Holds target := by
  have hfound {target : Reference} {expected : Option Collection}
      (h : e.Refers path target expected) :
      ((e.resolve c registry config).reference? path).isSome = true ↔
        (∀ accepted ∈ expected, target.collection = accepted) ∧ registry.Holds target := by
    rw [reference?_of_refers e c registry config h]
    refine Iff.trans ?_ (lookup_iff (f := ⟨path, target, expected⟩))
    cases (ReferenceField.mk path target expected).lookup registry <;>
      simp [Except.toOption, Except.toBool]
  constructor
  · intro hsome
    have hrow : path ∈ (e.resolve c registry config).references := by
      rw [Std.ExtTreeMap.mem_iff_isSome_getElem?]
      obtain ⟨x, hx⟩ := Option.isSome_iff_exists.1 hsome
      rw [ResolvedEntry.reference?, Option.join_eq_some_iff] at hx
      exact Option.isSome_iff_exists.2 ⟨_, hx⟩
    obtain ⟨target, expected, h⟩ := mem_rows_iff.1 hrow
    exact ⟨target, expected, h, (hfound h).1 hsome⟩
  · rintro ⟨target, expected, h, hheld⟩
    exact (hfound h).2 hheld

/-- **If an entry finds again what it found, it is improved on**: no problem is new, and only
missing references are no longer reported. -/
theorem resolve_improvesOn (h : e.FindsAgain registry registry') :
    (e.resolve c registry' config).ImprovesOn (e.resolve c registry config) where
  entry := rfl
  valid hvalid := by
    obtain ⟨hrules, hlinked, hparsed⟩ := isValid_iff.1 hvalid
    refine isValid_iff.2 ⟨hrules, fun f hf => ?_, hparsed⟩
    obtain ⟨hfits, hheld⟩ := lookup_iff.1 (hlinked f hf)
    exact lookup_iff.2 ⟨hfits, h _ (.field (mem_referenceFields_iff.1 hf)) hheld⟩
  diagnostics := by
    refine sublist_of_ascends (resolve_ascends _ _ _ _) (resolve_ascends _ _ _ _) fun d hd => ?_
    obtain ⟨x, hx, rfl⟩ := mem_resolve_iff.1 hd
    exact mem_resolve_iff.2 ⟨x, mem_findings_mono h hx, rfl⟩
  kept := by
    -- both lists ascend, so it is enough that they have the same diagnostics
    refine eq_of_ascends ((resolve_ascends _ _ _ _).filter _) ((resolve_ascends _ _ _ _).filter _)
      fun d => ?_
    rw [List.mem_filter, List.mem_filter, decide_eq_true_eq]
    refine and_congr_left fun hkind => ?_
    rw [mem_resolve_iff, mem_resolve_iff]
    constructor
    · rintro ⟨x, hx, rfl⟩
      exact ⟨x, mem_findings_kept hx hkind, rfl⟩
    · rintro ⟨x, hx, rfl⟩
      exact ⟨x, mem_findings_kept hx hkind, rfl⟩
  found path := by
    rw [reference?_isSome_iff, reference?_isSome_iff]
    rintro ⟨target, expected, hrefers, hfits, hheld⟩
    exact ⟨target, expected, hrefers, hfits, h _ (.field hrefers) hheld⟩

/-- **An entry that sees the same is resolved alike**: each of the two results improves on the other
one. -/
theorem resolve_alike (h : e.SeesAlike registry registry') :
    (e.resolve c registry config).Alike (e.resolve c registry' config) := by
  have himproves : (e.resolve c registry' config).ImprovesOn (e.resolve c registry config) :=
    resolve_improvesOn h.findsAgain
  have himproved : (e.resolve c registry config).ImprovesOn (e.resolve c registry' config) :=
    resolve_improvesOn h.symm.findsAgain
  refine ⟨rfl, Bool.eq_iff_iff.2 ⟨himproves.valid, himproved.valid⟩,
    himproved.diagnostics.antisymm himproves.diagnostics, fun path => ?_, fun path => ?_, rfl, rfl⟩
  · rw [mem_rows_iff, mem_rows_iff]
  · exact Bool.eq_iff_iff.2 ⟨himproves.found path, himproved.found path⟩

/-- **The texts of an entry are rendered alike** if it also shows the same names. -/
theorem rendered?_congr (h : e.SeesAlike registry registry')
    (hshows : e.ShowsAlike registry registry') (path : String) :
    (e.resolve c registry config).rendered? path =
      (e.resolve c registry' config).rendered? path := by
  refine Option.ext fun text => ?_
  rw [(resolve_keeps e c registry config).rendered, (resolve_keeps e c registry' config).rendered]
  refine exists_congr fun source => exists_congr fun t => and_congr_right fun hdescribes =>
    and_congr_right fun ht => ?_
  rw [render_congr (fun r hr => h _ (.directive hdescribes ht hr))
    fun r hr hdisplay => hshows _ (.directive hdescribes ht hr hdisplay)]

end

end Rulebook
