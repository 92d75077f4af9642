import Rulebook.Entry.Fields

/-!
# What the fields of an entry hold

The references, formulas and templates of an entry, each with the path of its field. They are read
off the entry here, one case for each kind of field; the lists of fields have the same ones.

* `Entry.Refers`, `Entry.Rolls`, `Entry.Describes`: an entry has a reference, a formula or a
  template at a path.
* `mem_referenceFields_iff`, `mem_diceFields_iff`, `mem_templateFields_iff`: **the lists of fields
  are complete.**
-/

namespace Rulebook

/-- **An entry has a reference at a path**, in a field that accepts one collection or any. -/
inductive Entry.Refers : Entry → String → Reference → Option Collection → Prop
  | school (s : Spell) : Refers (.spell s) "school" s.school (some .magicSchools)
  | condition {s : Spell} {i : Nat} {target : Reference} : s.conditions[i]? = some target →
      Refers (.spell s) s!"conditions[{i}]" target (some .conditions)
  | save {s : Spell} {a : Attack} {target : Reference} : s.attack = some a →
      a.save = some target → Refers (.spell s) "attack.save" target (some .abilityScores)
  | damageType {s : Spell} {a : Attack} {i : Nat} {d : Damage} : s.attack = some a →
      a.damage[i]? = some d →
        Refers (.spell s) s!"attack.damage[{i}].damageType" d.damageType (some .damageTypes)
  | link {r : Record} {name : String} {target : Reference} : r.links[name]? = some target →
      Refers (.record r) s!"links.{name}" target none

/-- **An entry has the text of a formula at a path.** -/
inductive Entry.Rolls : Entry → String → String → Prop
  | damage {s : Spell} {a : Attack} {i : Nat} {d : Damage} : s.attack = some a →
      a.damage[i]? = some d → Rolls (.spell s) s!"attack.damage[{i}].dice" d.dice
  | damageStep {s : Spell} {p : Progression} {i : Nat} {step : ProgressionStep} :
      s.damageProgression = some p → p.steps[i]? = some step →
        Rolls (.spell s) s!"damageProgression.steps[{i}].dice" step.dice
  | healingStep {s : Spell} {p : Progression} {i : Nat} {step : ProgressionStep} :
      s.healingProgression = some p → p.steps[i]? = some step →
        Rolls (.spell s) s!"healingProgression.steps[{i}].dice" step.dice

/-- **An entry has the text of a template at a path.** -/
inductive Entry.Describes : Entry → String → String → Prop
  | desc (s : Spell) : Describes (.spell s) "desc" s.desc
  | higherLevels {s : Spell} {text : String} : s.higherLevels = some text →
      Describes (.spell s) "higherLevels" text
  | recordDesc {r : Record} {text : String} : r.desc = some text →
      Describes (.record r) "desc" text

/-- What is made of the elements of a list and their indices. -/
theorem mem_indexed_iff {α β : Type} {l : List α} {field : α × Nat → β} {b : β} :
    b ∈ l.zipIdx.map field ↔ ∃ i a, l[i]? = some a ∧ field (a, i) = b := by
  rw [List.mem_map]
  constructor
  · rintro ⟨⟨a, i⟩, hmem, hfield⟩
    exact ⟨i, a, List.mk_mem_zipIdx_iff_getElem?.1 hmem, hfield⟩
  · rintro ⟨i, a, ha, hfield⟩
    exact ⟨(a, i), List.mk_mem_zipIdx_iff_getElem?.2 ha, hfield⟩

/-- What is made of a value that may be there. -/
theorem mem_optional_iff {α β : Type} {o : Option α} {items : α → List β} {b : β} :
    b ∈ o.toList.flatMap items ↔ ∃ a, o = some a ∧ b ∈ items a := by
  cases o <;> simp

/-! ## References -/

theorem mem_attack_references_iff {a : Attack} {f : ReferenceField} : f ∈ a.referenceFields ↔
    (∃ target, a.save = some target ∧ ⟨"attack.save", target, some .abilityScores⟩ = f) ∨
      ∃ (i : Nat) (d : Damage), a.damage[i]? = some d ∧
        ⟨s!"attack.damage[{i}].damageType", d.damageType, some .damageTypes⟩ = f := by
  unfold Attack.referenceFields
  rw [List.mem_append, mem_indexed_iff, Option.mem_toList, Option.map_eq_some_iff]

theorem mem_spell_references_iff {s : Spell} {f : ReferenceField} : f ∈ s.referenceFields ↔
    (Entry.spell s).Refers f.path f.target f.expected := by
  unfold Spell.referenceFields
  rw [List.mem_append, List.mem_cons, mem_indexed_iff, mem_optional_iff]
  constructor
  · rintro ((rfl | ⟨i, target, h, rfl⟩) | ⟨a, ha, hf⟩)
    · exact .school s
    · exact .condition h
    · rcases mem_attack_references_iff.1 hf with ⟨target, h, rfl⟩ | ⟨i, d, h, rfl⟩
      · exact .save ha h
      · exact .damageType ha h
  · obtain ⟨path, target, expected⟩ := f
    intro h
    cases h with
    | school => exact .inl (.inl rfl)
    | condition h => exact .inl (.inr ⟨_, _, h, rfl⟩)
    | save ha h => exact .inr ⟨_, ha, mem_attack_references_iff.2 (.inl ⟨_, h, rfl⟩)⟩
    | damageType ha h => exact .inr ⟨_, ha, mem_attack_references_iff.2 (.inr ⟨_, _, h, rfl⟩)⟩

theorem mem_record_references_iff {r : Record} {f : ReferenceField} : f ∈ r.referenceFields ↔
    (Entry.record r).Refers f.path f.target f.expected := by
  unfold Record.referenceFields
  rw [List.mem_map]
  constructor
  · rintro ⟨⟨name, target⟩, h, rfl⟩
    exact .link (Std.ExtTreeMap.mem_toList_iff_getElem?_eq_some.1 h)
  · obtain ⟨path, target, expected⟩ := f
    intro h
    cases h with
    | link h => exact ⟨(_, _), Std.ExtTreeMap.mem_toList_iff_getElem?_eq_some.2 h, rfl⟩

/-- **The reference fields of an entry** are its references. -/
theorem mem_referenceFields_iff {e : Entry} {f : ReferenceField} :
    f ∈ e.referenceFields ↔ e.Refers f.path f.target f.expected := by
  cases e with
  | spell s => exact mem_spell_references_iff
  | record r => exact mem_record_references_iff

/-! ## Formulas -/

theorem mem_progression_dice_iff {p : Progression} {field : String} {f : DiceField} :
    f ∈ p.diceFields field ↔
      ∃ (i : Nat) (step : ProgressionStep), p.steps[i]? = some step ∧
        ⟨s!"{field}.steps[{i}].dice", step.dice⟩ = f := by
  unfold Progression.diceFields
  exact mem_indexed_iff

theorem mem_progressions_iff {s : Spell} {field : String} {p : Progression} :
    (field, p) ∈ s.progressions ↔
      (field = "damageProgression" ∧ s.damageProgression = some p) ∨
        (field = "healingProgression" ∧ s.healingProgression = some p) := by
  unfold Spell.progressions
  cases s.damageProgression <;> cases s.healingProgression <;> simp [eq_comm]

/-- **The dice fields of an entry** are its formulas. -/
theorem mem_diceFields_iff {e : Entry} {f : DiceField} :
    f ∈ e.diceFields ↔ e.Rolls f.path f.source := by
  cases e with
  | record r =>
    constructor
    · intro h; cases h
    · intro h; cases h
  | spell s =>
    show f ∈ s.diceFields ↔ _
    unfold Spell.diceFields
    rw [List.mem_append, mem_optional_iff, List.mem_flatMap]
    constructor
    · rintro (⟨a, ha, hf⟩ | ⟨⟨field, p⟩, hp, hf⟩)
      · obtain ⟨i, d, hd, rfl⟩ := mem_indexed_iff.1 hf
        exact .damage ha hd
      · obtain ⟨i, step, hstep, rfl⟩ := mem_progression_dice_iff.1 hf
        rcases mem_progressions_iff.1 hp with ⟨rfl, hdamage⟩ | ⟨rfl, hhealing⟩
        · exact .damageStep hdamage hstep
        · exact .healingStep hhealing hstep
    · obtain ⟨path, source⟩ := f
      intro h
      cases h with
      | damage ha hd => exact .inl ⟨_, ha, mem_indexed_iff.2 ⟨_, _, hd, rfl⟩⟩
      | damageStep hp hstep =>
        exact .inr ⟨_, mem_progressions_iff.2 (.inl ⟨rfl, hp⟩),
          mem_progression_dice_iff.2 ⟨_, _, hstep, rfl⟩⟩
      | healingStep hp hstep =>
        exact .inr ⟨_, mem_progressions_iff.2 (.inr ⟨rfl, hp⟩),
          mem_progression_dice_iff.2 ⟨_, _, hstep, rfl⟩⟩

/-! ## Templates -/

/-- **The template fields of an entry** are its templates. -/
theorem mem_templateFields_iff {e : Entry} {path source : String} :
    (∃ f ∈ e.templateFields, f.path = path ∧ f.source = source) ↔ e.Describes path source := by
  cases e with
  | spell s =>
    constructor
    · rintro ⟨f, hf, rfl, rfl⟩
      rcases List.mem_cons.1 hf with rfl | hf
      · exact .desc s
      · obtain ⟨text, htext, rfl⟩ := Option.map_eq_some_iff.1 (Option.mem_toList.1 hf)
        exact .higherLevels htext
    · intro h
      cases h with
      | desc => exact ⟨_, List.mem_cons_self, rfl, rfl⟩
      | higherLevels h =>
        refine ⟨⟨"higherLevels", source, false⟩, List.mem_cons_of_mem _ ?_, rfl, rfl⟩
        rw [h]
        exact List.mem_cons_self
  | record r =>
    constructor
    · rintro ⟨f, hf, rfl, rfl⟩
      obtain ⟨text, htext, rfl⟩ := Option.map_eq_some_iff.1 (Option.mem_toList.1 hf)
      exact .recordDesc htext
    · intro h
      cases h with
      | recordDesc h =>
        exact ⟨⟨"desc", source, false⟩, Option.mem_toList.2 (Option.map_eq_some_iff.2
          ⟨_, h, rfl⟩), rfl, rfl⟩

end Rulebook
