import Rulebook.Graph.Resolved

/-!
# Well-formed entries

What it takes for an entry to be fit for use, said without the checks that decide it.

* `Progression.WellFormed`: a table of dice starts at or below its base and ascends.
* `Spell.Sound`, `Spell.Linked`, `Spell.Parsed`: the rules on a spell itself, on the entries it
  points at, and on its formulas and its description.
* `Entry.WellFormed`: all of them, in the right collection.
* `valid_iff_wellFormed`: **an entry is fit for use exactly if it is well formed.** Everything else
  in it only brings diagnostics.
-/

namespace Rulebook

/-- Whether a reference points at an entry. -/
def Registry.Holds (r : Registry) (ref : Reference) : Prop :=
  ∃ e, r.get? ref.collection ref.id = some e

/-- Whether a reference points at an entry of one collection. -/
def Registry.HoldsIn (r : Registry) (c : Collection) (ref : Reference) : Prop :=
  ref.collection = c ∧ r.Holds ref

/-- A table of dice starts at or below its base, and its keys ascend. -/
structure Progression.WellFormed (p : Progression) (level : UInt8) : Prop where
  starts : ∃ first, p.steps.head? = some first ∧ first.key ≤ p.baseKey level
  ascends : (p.steps.map (·.key)).Pairwise (· < ·)

/-- The rules on a spell itself. -/
structure Spell.Sound (s : Spell) : Prop where
  level : s.level ≤ 9
  castingTimes : s.castingTimes ≠ []
  castingAmounts : ∀ t ∈ s.castingTimes, 0 < t.amount
  durations : s.durations ≠ []
  durationAmounts : ∀ unit concentration, .timed 0 unit concentration ∉ s.durations
  savingThrow : ∀ a ∈ s.attack, a.kind = .savingThrow → a.save.isSome ∧ a.effectOnSave.isSome
  damageProgression : ∀ p ∈ s.damageProgression, p.WellFormed s.level
  healingProgression : ∀ p ∈ s.healingProgression, p.WellFormed s.level

/-- The rules on the references of a spell: each points at an entry of the collection of its
field. -/
structure Spell.Linked (s : Spell) (registry : Registry) : Prop where
  school : registry.HoldsIn .magicSchools s.school
  conditions : ∀ r ∈ s.conditions, registry.HoldsIn .conditions r
  save : ∀ a ∈ s.attack, ∀ r ∈ a.save, registry.HoldsIn .abilityScores r
  damageTypes : ∀ a ∈ s.attack, ∀ d ∈ a.damage, registry.HoldsIn .damageTypes d.damageType

/-- A text that is a formula. -/
def Formula.Accepts (text : String) : Prop := ∃ f, Formula.parse text = .ok f

/-- A text that is a template. -/
def Template.Accepts (text : String) : Prop := ∃ t, Template.parse text = .ok t

/-- The rules on the formulas of a spell and on its description. -/
structure Spell.Parsed (s : Spell) : Prop where
  damage : ∀ a ∈ s.attack, ∀ d ∈ a.damage, Formula.Accepts d.dice
  damageProgression : ∀ p ∈ s.damageProgression, ∀ step ∈ p.steps, Formula.Accepts step.dice
  healingProgression : ∀ p ∈ s.healingProgression, ∀ step ∈ p.steps, Formula.Accepts step.dice
  desc : Template.Accepts s.desc

/-- A spell obeys all rules, in the collection of spells. -/
structure Spell.WellFormed (s : Spell) (c : Collection) (registry : Registry) : Prop where
  placed : c = .spells
  sound : s.Sound
  linked : s.Linked registry
  parsed : s.Parsed

/-- A record obeys all rules, in another collection: its links point at entries. -/
structure Record.WellFormed (r : Record) (c : Collection) (registry : Registry) : Prop where
  placed : c ≠ .spells
  linked : ∀ (field : String) (target : Reference),
    r.links[field]? = some target → registry.Holds target

/-- **A well-formed entry** in a collection. -/
def Entry.WellFormed (c : Collection) (registry : Registry) : Entry → Prop
  | spell s => s.WellFormed c registry
  | record r => r.WellFormed c registry

/-! ## Findings that make an entry unfit -/

/-- Findings without an error among them. -/
def Clean (findings : List Finding) : Prop := ∀ f ∈ findings, f.severity ≠ .error

theorem clean_nil : Clean [] := by intro f hf; cases hf

theorem clean_append {a b : List Finding} : Clean (a ++ b) ↔ Clean a ∧ Clean b := by
  unfold Clean
  exact List.forall_mem_append

theorem clean_flatMap {α : Type} {l : List α} {findings : α → List Finding} :
    Clean (l.flatMap findings) ↔ ∀ a ∈ l, Clean (findings a) := by
  unfold Clean
  constructor
  · intro h a ha f hf
    exact h f (List.mem_flatMap.2 ⟨a, ha, hf⟩)
  · intro h f hf
    obtain ⟨a, ha, hf⟩ := List.mem_flatMap.1 hf
    exact h a ha f hf

/-- A rule that is reported as an error has to hold. -/
theorem clean_findIf_error {broken : Bool} {field message : String} :
    Clean (findIf broken (.error field message)) ↔ broken = false := by
  unfold findIf Clean
  cases broken <;> simp [Finding.error]

/-- A warning never makes an entry unfit. -/
theorem clean_findIf_warning (broken : Bool) (field message : String) :
    Clean (findIf broken (.warning field message)) := by
  unfold findIf Clean
  cases broken <;> simp [Finding.warning]

theorem forall_mem_zipIdx {α : Type} {l : List α} {P : α → Prop} :
    (∀ p ∈ l.zipIdx, P p.1) ↔ ∀ a ∈ l, P a := by
  have h := List.forall_mem_map (l := l.zipIdx) (f := Prod.fst) (P := P)
  rw [List.zipIdx_map_fst] at h
  exact h.symm

/-- A rule on each element of a list has to hold of all of them. -/
theorem clean_findEach {α : Type} {l : List α} {finding? : Nat → α → Option Finding}
    {P : α → Prop} (h : ∀ i a, (∀ f ∈ finding? i a, f.severity ≠ .error) ↔ P a) :
    Clean (findEach l finding?) ↔ ∀ a ∈ l, P a := by
  rw [← forall_mem_zipIdx]
  unfold findEach Clean
  constructor
  · intro hc p hp
    obtain ⟨a, i⟩ := p
    rw [← h i]
    intro f hf
    exact hc f (List.mem_filterMap.2 ⟨(a, i), hp, hf⟩)
  · intro hall f hf
    obtain ⟨⟨a, i⟩, hp, hf⟩ := List.mem_filterMap.1 hf
    exact (h i a).2 (hall (a, i) hp) f hf

/-! ## The rules on tables of dice -/

/-- **Adjacent steps decide**: if each key is below the next one, the keys ascend. -/
theorem ascends_iff (first : ProgressionStep) (rest : List ProgressionStep) :
    (∀ pair ∈ (first :: rest).zip rest, pair.1.key < pair.2.key) ↔
      ((first :: rest).map (·.key)).Pairwise (· < ·) := by
  induction rest generalizing first with
  | nil => simp
  | cons second rest ih =>
    rw [List.zip_cons_cons, List.forall_mem_cons, List.map_cons, List.pairwise_cons, ih second]
    constructor
    · rintro ⟨hlt, hp⟩
      refine ⟨?_, hp⟩
      intro key hkey
      rcases List.mem_cons.1 hkey with rfl | hkey
      · exact hlt
      · exact UInt32.lt_trans hlt (List.rel_of_pairwise_cons hp hkey)
    · rintro ⟨hall, hp⟩
      exact ⟨hall _ List.mem_cons_self, hp⟩

theorem ascentFinding?_clean (field : String) (i : Nat) (pair : ProgressionStep × ProgressionStep) :
    (∀ f ∈ Progression.ascentFinding? field i pair, f.severity ≠ .error) ↔
      pair.1.key < pair.2.key := by
  obtain ⟨before, step⟩ := pair
  unfold Progression.ascentFinding?
  by_cases h : step.key ≤ before.key
  · simp [h, Finding.error]
  · simp [h, UInt32.not_le.1 h]

/-- A table without findings is well formed. -/
theorem clean_progression {p : Progression} {field : String} {level : UInt8} :
    Clean (p.findings field level) ↔ p.WellFormed level := by
  obtain ⟨basis, _ | ⟨first, rest⟩⟩ := p
  · constructor
    · intro h
      exact absurd rfl (h _ List.mem_cons_self)
    · rintro ⟨⟨first, hfirst, -⟩, -⟩
      cases hfirst
  · have hascent := (clean_findEach (ascentFinding?_clean field)).trans (ascends_iff first rest)
    simp only [Progression.findings]
    rw [clean_append, clean_findIf_error, hascent, decide_eq_false_iff_not, UInt32.not_lt]
    constructor
    · rintro ⟨hbase, hp⟩
      exact ⟨⟨first, rfl, hbase⟩, hp⟩
    · rintro ⟨⟨first', hfirst, hbase⟩, hp⟩
      cases hfirst
      exact ⟨hbase, hp⟩

/-! ## The rules on a spell -/

theorem clean_castingTimes {s : Spell} :
    Clean s.castingTimeFindings ↔ s.castingTimes ≠ [] ∧ ∀ t ∈ s.castingTimes, 0 < t.amount := by
  unfold Spell.castingTimeFindings
  rw [clean_append, clean_findIf_error]
  refine and_congr (by simp) (clean_findEach ?_)
  intro i t
  rw [UInt32.pos_iff_ne_zero]
  by_cases h : t.amount = 0 <;> simp [h, Finding.error]

theorem clean_durations {s : Spell} :
    Clean s.durationFindings ↔
      s.durations ≠ [] ∧ ∀ unit concentration, .timed 0 unit concentration ∉ s.durations := by
  have heach (d : Duration) : (∀ unit concentration, d ≠ .timed 0 unit concentration) ↔
      ∀ amount unit concentration, d = .timed amount unit concentration → amount ≠ 0 := by
    constructor
    · rintro h amount unit concentration rfl rfl
      exact h unit concentration rfl
    · rintro h unit concentration rfl
      exact h 0 unit concentration rfl rfl
  unfold Spell.durationFindings
  rw [clean_append, clean_findIf_error]
  refine and_congr (by simp) ((clean_findEach (P := fun d =>
    ∀ unit concentration, d ≠ .timed 0 unit concentration) ?_).trans ?_)
  · intro i d
    rw [heach]
    cases d with
    | timed amount unit concentration =>
      by_cases h : amount = 0 <;> simp [h, Finding.error]
    | instantaneous => simp
    | untilDispelled => simp
    | special => simp
  · constructor
    · intro h unit concentration hd
      exact h _ hd unit concentration rfl
    · rintro h d hd unit concentration rfl
      exact h unit concentration hd

theorem isSavingThrow_iff {k : AttackKind} : k.isSavingThrow = true ↔ k = .savingThrow := by
  cases k <;> simp [AttackKind.isSavingThrow]

theorem clean_attack {s : Spell} {config : BuildConfig} :
    Clean (s.attackFindings config) ↔
      ∀ a ∈ s.attack, a.kind = .savingThrow → a.save.isSome ∧ a.effectOnSave.isSome := by
  unfold Spell.attackFindings
  cases s.attack with
  | none => simp [clean_nil]
  | some a =>
    simp only [Option.mem_some_iff, forall_eq']
    by_cases h : a.kind.isSavingThrow = true
    · have hk := isSavingThrow_iff.1 h
      rw [if_pos h, clean_append, clean_findIf_error, clean_findIf_error]
      simp [hk, and_comm]
    · -- a save that is not asked for is a warning at most
      rw [if_neg h]
      refine iff_of_true (clean_findIf_warning _ _ _) ?_
      intro hk
      exact absurd (isSavingThrow_iff.2 hk) h

/-- What holds of all progressions of a spell holds of the two that it can have. -/
theorem forall_mem_progressions {s : Spell} {P : Progression → Prop} :
    (∀ q ∈ s.progressions, P q.2) ↔
      (∀ p ∈ s.damageProgression, P p) ∧ ∀ p ∈ s.healingProgression, P p := by
  unfold Spell.progressions
  cases s.damageProgression <;> cases s.healingProgression <;> simp

theorem clean_progressions {s : Spell} :
    Clean (s.progressions.flatMap fun (field, p) => p.findings field s.level) ↔
      (∀ p ∈ s.damageProgression, p.WellFormed s.level) ∧
        ∀ p ∈ s.healingProgression, p.WellFormed s.level := by
  rw [clean_flatMap, ← forall_mem_progressions (P := fun p => p.WellFormed s.level)]
  exact forall_congr' fun q => imp_congr_right fun _ => clean_progression

/-- **A spell without errors among its findings is sound.** -/
theorem clean_spell {s : Spell} {config : BuildConfig} : Clean (s.findings config) ↔ s.Sound := by
  unfold Spell.findings
  rw [clean_append, clean_append, clean_append, clean_append, clean_progressions,
    clean_attack, clean_durations, clean_castingTimes, Spell.levelFindings,
    clean_findIf_error, decide_eq_false_iff_not, UInt8.not_lt]
  constructor
  · rintro ⟨⟨⟨⟨hlevel, htimes, hamounts⟩, hdurations, htimed⟩, hsave⟩, hdamage, hhealing⟩
    exact ⟨hlevel, htimes, hamounts, hdurations, htimed, hsave, hdamage, hhealing⟩
  · rintro ⟨hlevel, htimes, hamounts, hdurations, htimed, hsave, hdamage, hhealing⟩
    exact ⟨⟨⟨⟨hlevel, htimes, hamounts⟩, hdurations, htimed⟩, hsave⟩, hdamage, hhealing⟩

/-! ## References, formulas and templates -/

theorem toBool_eq_true {ε α : Type} {x : Except ε α} : x.toBool = true ↔ ∃ a, x = .ok a := by
  cases x <;> simp [Except.toBool]

/-- A field that is looked up without an error points at an entry that it accepts. -/
theorem lookup_iff {f : ReferenceField} {registry : Registry} :
    (f.lookup registry).toBool = true ↔
      (∀ c ∈ f.expected, f.target.collection = c) ∧ registry.Holds f.target := by
  have hresolve : (registry.resolve f.target).toBool = true ↔ registry.Holds f.target := by
    unfold Registry.resolve Registry.Holds
    cases registry.get? f.target.collection f.target.id <;> simp [Except.toBool]
  unfold ReferenceField.lookup Registry.resolveInto
  cases f.expected with
  | none => simp [hresolve]
  | some c =>
    by_cases h : f.target.collection = c
    · simp [h, hresolve]
    · simp [h, Except.toBool]

/-- What holds of the target of a reference field with a collection of its own. -/
theorem lookup_into_iff {path : String} {target : Reference} {c : Collection}
    {registry : Registry} :
    ((ReferenceField.mk path target (some c)).lookup registry).toBool = true ↔
      registry.HoldsIn c target := by
  rw [lookup_iff]
  simp [Registry.HoldsIn]

/-- Fields that come from the elements of a list with their indices. -/
theorem forall_mem_indexed {α β : Type} {l : List α} {field : α × Nat → β} {P : β → Prop}
    {Q : α → Prop} (h : ∀ p, P (field p) ↔ Q p.1) :
    (∀ f ∈ l.zipIdx.map field, P f) ↔ ∀ a ∈ l, Q a := by
  rw [List.forall_mem_map, ← forall_mem_zipIdx (P := Q)]
  exact forall_congr' fun p => imp_congr_right fun _ => h p

theorem forall_mem_toList {α β : Type} {o : Option α} {fields : α → List β} {P : β → Prop} :
    (∀ f ∈ o.toList.flatMap fields, P f) ↔ ∀ a ∈ o, ∀ f ∈ fields a, P f := by
  cases o <;> simp

/-- **A spell whose references are all found is linked.** -/
theorem spell_linked_iff {s : Spell} {registry : Registry} :
    (∀ f ∈ s.referenceFields, (f.lookup registry).toBool = true) ↔ s.Linked registry := by
  have hattack (a : Attack) : (∀ f ∈ a.referenceFields, (f.lookup registry).toBool = true) ↔
      (∀ r ∈ a.save, registry.HoldsIn .abilityScores r) ∧
        ∀ d ∈ a.damage, registry.HoldsIn .damageTypes d.damageType := by
    unfold Attack.referenceFields
    rw [List.forall_mem_append]
    refine and_congr ?_ (forall_mem_indexed fun p => lookup_into_iff)
    cases a.save <;> simp [lookup_into_iff]
  unfold Spell.referenceFields
  rw [List.forall_mem_append, List.forall_mem_cons, lookup_into_iff, forall_mem_toList]
  simp only [hattack]
  refine (and_congr_left' (and_congr_right' (forall_mem_indexed
    (Q := registry.HoldsIn .conditions) fun p => lookup_into_iff))).trans ?_
  constructor
  · rintro ⟨⟨hschool, hconditions⟩, ha⟩
    exact ⟨hschool, hconditions, fun a h => (ha a h).1, fun a h => (ha a h).2⟩
  · rintro ⟨hschool, hconditions, hsave, htypes⟩
    exact ⟨⟨hschool, hconditions⟩, fun a h => ⟨hsave a h, htypes a h⟩⟩

/-- The formulas of a table are its steps. -/
theorem progression_parsed_iff {p : Progression} {field : String} :
    (∀ f ∈ p.diceFields field, f.formula.toBool = true) ↔
      ∀ step ∈ p.steps, Formula.Accepts step.dice := by
  unfold Progression.diceFields
  exact forall_mem_indexed fun q => toBool_eq_true

theorem progressions_parsed_iff {s : Spell} :
    (∀ f ∈ s.progressions.flatMap fun (field, p) => p.diceFields field, f.formula.toBool = true) ↔
      (∀ p ∈ s.damageProgression, ∀ step ∈ p.steps, Formula.Accepts step.dice) ∧
        ∀ p ∈ s.healingProgression, ∀ step ∈ p.steps, Formula.Accepts step.dice := by
  rw [← forall_mem_progressions (P := fun p => ∀ step ∈ p.steps, Formula.Accepts step.dice),
    List.forall_mem_flatMap]
  exact forall_congr' fun q => imp_congr_right fun _ => progression_parsed_iff

/-- **A spell whose formulas and description are read is parsed.** Nothing is asked of the text on
higher levels. -/
theorem spell_parsed_iff {s : Spell} :
    (∀ f ∈ s.diceFields, f.formula.toBool = true) ∧ (∀ f ∈ s.templateFields, f.isUsable = true) ↔
      s.Parsed := by
  have hattack (a : Attack) : (∀ f ∈ a.diceFields, f.formula.toBool = true) ↔
      ∀ d ∈ a.damage, Formula.Accepts d.dice := by
    unfold Attack.diceFields
    exact forall_mem_indexed fun p => toBool_eq_true
  have hdesc : (∀ f ∈ s.templateFields, f.isUsable = true) ↔ Template.Accepts s.desc := by
    unfold Spell.templateFields Template.Accepts
    rw [List.forall_mem_cons, ← toBool_eq_true]
    -- the text on higher levels is usable whether or not it is read
    refine (and_iff_left ?_).trans (by simp [TemplateField.isUsable, TemplateField.template])
    cases s.higherLevels <;> simp [TemplateField.isUsable]
  unfold Spell.diceFields
  rw [List.forall_mem_append, forall_mem_toList, progressions_parsed_iff, hdesc]
  simp only [hattack]
  constructor
  · rintro ⟨⟨hattack, hdamage, hhealing⟩, hdesc⟩
    exact ⟨hattack, hdamage, hhealing, hdesc⟩
  · rintro ⟨hattack, hdamage, hhealing, hdesc⟩
    exact ⟨⟨hattack, hdamage, hhealing⟩, hdesc⟩

/-- **A record whose links are all found is linked.** -/
theorem record_linked_iff {r : Record} {registry : Registry} :
    (∀ f ∈ r.referenceFields, (f.lookup registry).toBool = true) ↔
      ∀ (field : String) (target : Reference), r.links[field]? = some target →
        registry.Holds target := by
  unfold Record.referenceFields
  rw [List.forall_mem_map]
  simp only [lookup_iff]
  constructor
  · intro h field target hlink
    exact (h (field, target) (Std.ExtTreeMap.mem_toList_iff_getElem?_eq_some.2 hlink)).2
  · rintro h ⟨field, target⟩ hmem
    exact ⟨by simp, h field target (Std.ExtTreeMap.mem_toList_iff_getElem?_eq_some.1 hmem)⟩

/-- An entry is fit for use if none of its checks fails. -/
theorem isValid_iff {e : Entry} {c : Collection} {registry : Registry} {config : BuildConfig} :
    e.isValid c registry config = true ↔
      Clean (e.structuralFindings c config) ∧
        (∀ f ∈ e.referenceFields, (f.lookup registry).toBool = true) ∧
        (∀ f ∈ e.diceFields, f.formula.toBool = true) ∧
        ∀ f ∈ e.templateFields, f.isUsable = true := by
  unfold Entry.isValid Clean
  simp [and_assoc]

theorem spell_isValid_iff {s : Spell} {c : Collection} {registry : Registry}
    {config : BuildConfig} :
    (Entry.spell s).isValid c registry config = true ↔ s.WellFormed c registry := by
  have hplaced : Clean ((Entry.spell s).placement c) ↔ c = .spells := by
    unfold Entry.placement
    rw [clean_findIf_error]; simp
  rw [isValid_iff, Entry.structuralFindings, clean_append, hplaced, clean_spell]
  constructor
  · rintro ⟨⟨hc, hsound⟩, hlinked, hparsed⟩
    exact ⟨hc, hsound, spell_linked_iff.1 hlinked, spell_parsed_iff.1 hparsed⟩
  · rintro ⟨hc, hsound, hlinked, hparsed⟩
    exact ⟨⟨hc, hsound⟩, spell_linked_iff.2 hlinked, spell_parsed_iff.2 hparsed⟩

theorem record_isValid_iff {r : Record} {c : Collection} {registry : Registry}
    {config : BuildConfig} :
    (Entry.record r).isValid c registry config = true ↔ r.WellFormed c registry := by
  have hplaced : Clean ((Entry.record r).placement c) ↔ c ≠ .spells := by
    unfold Entry.placement
    rw [clean_findIf_error]; simp
  have hdice : ∀ f ∈ (Entry.record r).diceFields, f.formula.toBool = true := by
    intro f hf; cases hf
  have husable : ∀ f ∈ (Entry.record r).templateFields, f.isUsable = true := by
    unfold Entry.templateFields Record.templateFields
    cases r.desc <;> simp [TemplateField.isUsable]
  rw [isValid_iff, Entry.structuralFindings, clean_append, hplaced]
  constructor
  · rintro ⟨⟨hc, -⟩, hlinked, -, -⟩
    exact ⟨hc, record_linked_iff.1 hlinked⟩
  · rintro ⟨hc, hlinked⟩
    exact ⟨⟨hc, clean_nil⟩, record_linked_iff.2 hlinked, hdice, husable⟩

/-- The checks of an entry decide whether it is well formed. -/
theorem isValid_iff_wellFormed {e : Entry} {c : Collection} {registry : Registry}
    {config : BuildConfig} :
    e.isValid c registry config = true ↔ e.WellFormed c registry := by
  cases e with
  | spell s => exact spell_isValid_iff
  | record r => exact record_isValid_iff

/-! ## What an entry can do without -/

theorem Spell.WellFormed.withHigherLevels {s : Spell} {c : Collection} {registry : Registry}
    (h : s.WellFormed c registry) (text : Option String) :
    ({ s with higherLevels := text } : Spell).WellFormed c registry := by
  obtain ⟨hc, hsound, hlinked, hparsed⟩ := h
  exact ⟨hc, { hsound with }, { hlinked with }, { hparsed with }⟩

/-- The text on higher levels is not asked for. -/
theorem wellFormed_higherLevels {s : Spell} {c : Collection} {registry : Registry}
    (text : Option String) :
    ({ s with higherLevels := text } : Spell).WellFormed c registry ↔ s.WellFormed c registry :=
  ⟨fun h => h.withHigherLevels s.higherLevels, fun h => h.withHigherLevels text⟩

/-- The description of a record is not asked for. -/
theorem wellFormed_desc {r : Record} {c : Collection} {registry : Registry} (text : Option String) :
    ({ r with desc := text } : Record).WellFormed c registry ↔ r.WellFormed c registry := by
  constructor
  · rintro ⟨hc, hlinked⟩
    exact ⟨hc, hlinked⟩
  · rintro ⟨hc, hlinked⟩
    exact ⟨hc, hlinked⟩

/-- Of a registry only the targets of the reference fields are asked for. A reference inside a
template is none of them. -/
theorem isValid_congr {e : Entry} {c : Collection} {registry registry' : Registry}
    {config config' : BuildConfig}
    (h : ∀ f ∈ e.referenceFields, registry.Holds f.target ↔ registry'.Holds f.target) :
    e.isValid c registry config = true ↔ e.isValid c registry' config' = true := by
  have hclean : Clean (e.structuralFindings c config) ↔ Clean (e.structuralFindings c config') := by
    cases e with
    | spell s =>
      rw [Entry.structuralFindings, Entry.structuralFindings, clean_append, clean_append,
        clean_spell, clean_spell]
    | record r => exact Iff.rfl
  have hlookup : (∀ f ∈ e.referenceFields, (f.lookup registry).toBool = true) ↔
      ∀ f ∈ e.referenceFields, (f.lookup registry').toBool = true := by
    refine forall_congr' fun f => imp_congr_right fun hf => ?_
    rw [lookup_iff, lookup_iff, h f hf]
  rw [isValid_iff, isValid_iff, hclean, hlookup]

/-- **An entry is fit for use exactly if it is well formed.** So neither the text on higher levels
of a spell, nor the description of a record, nor what a reference inside a template points at, nor
the configuration can make an entry unfit. -/
theorem valid_iff_wellFormed (c : Collection) (registry : Registry) (config : BuildConfig) :
    (∀ e : Entry, (e.resolve c registry config).valid = true ↔ e.WellFormed c registry) ∧
    (∀ (s : Spell) text,
      ((Entry.spell { s with higherLevels := text }).resolve c registry config).valid =
        ((Entry.spell s).resolve c registry config).valid) ∧
    (∀ (r : Record) text,
      ((Entry.record { r with desc := text }).resolve c registry config).valid =
        ((Entry.record r).resolve c registry config).valid) ∧
    ∀ (e : Entry) registry' config',
      (∀ f ∈ e.referenceFields, registry.Holds f.target ↔ registry'.Holds f.target) →
        (e.resolve c registry' config').valid = (e.resolve c registry config).valid := by
  refine ⟨fun e => isValid_iff_wellFormed, ?_, ?_, ?_⟩
  · intro s text
    exact Bool.eq_iff_iff.2
      (spell_isValid_iff.trans ((wellFormed_higherLevels text).trans spell_isValid_iff.symm))
  · intro r text
    exact Bool.eq_iff_iff.2
      (record_isValid_iff.trans ((wellFormed_desc text).trans record_isValid_iff.symm))
  · intro e registry' config' h
    exact Bool.eq_iff_iff.2 (isValid_congr h).symm

/-- A skill that links to its ability. -/
def linkedSkill : Entry :=
  .record { id := "stealth", links := .ofList [("ability", Reference.mk .abilityScores "dex")] }

/-- A registry of abilities. -/
def abilities (ids : List String) : Registry :=
  .ofBatches [.unlabelled .abilityScores (ids.map fun id => .record { id })]

/-- The skill is as fit for use with more abilities as with its own one. -/
theorem valid_iff_wellFormed_skill :
    (∀ f ∈ linkedSkill.referenceFields,
      (abilities ["dex"]).Holds f.target ↔ (abilities ["dex", "str"]).Holds f.target) ∧
    (linkedSkill.resolve .skills (abilities ["dex", "str"]) {}).valid =
      (linkedSkill.resolve .skills (abilities ["dex"]) {}).valid := by
  have hheld : ∀ f ∈ linkedSkill.referenceFields,
      (abilities ["dex"]).Holds f.target ↔ (abilities ["dex", "str"]).Holds f.target := by
    intro f hf
    have hlink : f ∈ [ReferenceField.mk "links.ability" ⟨.abilityScores, "dex"⟩ none] := hf
    cases List.mem_singleton.1 hlink
    exact iff_of_true ⟨.record { id := "dex" }, rfl⟩ ⟨.record { id := "dex" }, rfl⟩
  exact ⟨hheld, (valid_iff_wellFormed .skills _ {}).2.2.2 _ _ {} hheld⟩

end Rulebook
