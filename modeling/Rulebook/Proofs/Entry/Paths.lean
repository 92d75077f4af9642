import Mathlib.Data.List.Nodup
import Rulebook.Entry.Fields
import Rulebook.Proofs.Text.Joined

/-!
# The paths of fields

No two fields of an entry are reported under the same path. The paths of different lists of fields
are told apart by their shapes, and those of one list by the index in them.

* `shape`: a path without the digits in it.
* `Shaped`: paths of some shapes, which are not repeated if the shapes are not. It holds of the
  paths of each list of fields, and of two lists in a row.
* `fieldPaths_nodup`: **the paths of an entry are not repeated.**
-/

namespace Rulebook

/-- A path without the digits in it: what the paths of one list of fields have in common. -/
def shape (path : String) : String := String.ofList (path.toList.filter fun c => !c.isDigit)

/-- A number in a path has no part in its shape. -/
theorem shape_number (before after : String) (n : Nat) :
    shape (before ++ toString n ++ after) = shape (before ++ after) := by
  have hdigits : (Nat.toDigits 10 n).filter (fun c => !c.isDigit) = [] := by
    rw [List.filter_eq_nil_iff]
    intro c hc
    simp [Nat.isDigit_of_mem_toDigits (by omega) (by omega) hc]
  unfold shape
  simp only [String.toList_append, List.filter_append, toList_toString, hdigits, List.append_nil]

/-- **Paths of some shapes.** They are not repeated if the shapes are not. -/
structure Shaped (shapes paths : List String) : Prop where
  shape_mem : ∀ p ∈ paths, shape p ∈ shapes
  nodup : shapes.Nodup → paths.Nodup

namespace Shaped

variable {s : String} {shapes shapes' paths paths' : List String}

theorem nil (shapes : List String) : Shaped shapes [] := ⟨by simp, fun _ => List.nodup_nil⟩

theorem single (path : String) (h : shape path = s) : Shaped [s] [path] :=
  ⟨by simpa using h, fun _ => List.nodup_singleton _⟩

/-- **Paths of other shapes** can be put behind them. -/
theorem append (h : Shaped shapes paths) (h' : Shaped shapes' paths') :
    Shaped (shapes ++ shapes') (paths ++ paths') where
  shape_mem p hp := by
    rcases List.mem_append.1 hp with hp | hp
    · exact List.mem_append_left _ (h.shape_mem p hp)
    · exact List.mem_append_right _ (h'.shape_mem p hp)
  nodup hnodup := by
    obtain ⟨hleft, hright, hapart⟩ := List.nodup_append.1 hnodup
    refine List.nodup_append.2 ⟨h.nodup hleft, h'.nodup hright, ?_⟩
    -- a path among both would have a shape among both
    rintro p hp _ hp' rfl
    exact hapart _ (h.shape_mem p hp) _ (h'.shape_mem p hp') rfl

/-- **Paths of different shapes** are different. -/
theorem apart (h : Shaped shapes paths) (h' : Shaped shapes' paths')
    (hapart : ∀ s ∈ shapes, s ∉ shapes') : ∀ p ∈ paths, p ∉ paths' :=
  fun p hp hp' => hapart _ (h.shape_mem p hp) (h'.shape_mem p hp')

theorem sublist (h : Shaped shapes paths) (hsub : paths'.Sublist paths) : Shaped shapes paths' :=
  ⟨fun p hp => h.shape_mem p (hsub.subset hp), fun hs => (h.nodup hs).sublist hsub⟩

/-- Paths of fields that are there at most once. -/
theorem optional {α : Type} {paths : α → List String} (h : ∀ a, Shaped shapes (paths a))
    (o : Option α) : Shaped shapes (o.toList.flatMap paths) := by
  cases o with
  | none => exact nil shapes
  | some a => simpa using h a

/-- **Paths with an index in them.** -/
theorem numbered (before after : String) (n : Nat) (h : shape (before ++ after) = s) :
    Shaped [s] ((List.range n).map fun i => before ++ toString i ++ after) where
  shape_mem := by
    intro p hp
    obtain ⟨i, -, rfl⟩ := List.mem_map.1 hp
    rw [shape_number, h]
    exact List.mem_singleton_self s
  nodup _ := List.nodup_range.map fun _ _ hij => numbered_injective hij

/-- Paths with the index of an element of a list in them. -/
theorem indexed {α : Type} (before after : String) (l : List α)
    (h : shape (before ++ after) = s) :
    Shaped [s] (l.zipIdx.map fun p => before ++ toString p.2 ++ after) := by
  have hpaths := numbered before after l.length h
  rw [List.range_eq_range', ← List.zipIdx_map_snd, List.map_map] at hpaths
  exact hpaths

end Shaped

/-! ## The fields of an entry -/

/-- The paths of all fields of an entry that are looked up or parsed. -/
def Entry.fieldPaths (e : Entry) : List String :=
  e.referenceFields.map (·.path) ++ e.diceFields.map (·.path) ++ e.templateFields.map (·.path)

/-- The paths that come from the progressions of a spell are those for damage and for healing. -/
theorem progressions_shaped {α : Type} (path : α → String) (items : String → Progression → List α)
    {damage healing : List String}
    (hdamage : ∀ p, Shaped damage ((items "damageProgression" p).map path))
    (hhealing : ∀ p, Shaped healing ((items "healingProgression" p).map path)) (s : Spell) :
    Shaped (damage ++ healing)
      ((s.progressions.flatMap fun (field, p) => items field p).map path) := by
  have hparts : ((s.progressions.flatMap fun (field, p) => items field p).map path) =
      (s.damageProgression.toList.flatMap fun p => (items "damageProgression" p).map path) ++
        s.healingProgression.toList.flatMap fun p => (items "healingProgression" p).map path := by
    unfold Spell.progressions
    cases s.damageProgression <;> cases s.healingProgression <;> simp
  rw [hparts]
  exact (Shaped.optional hdamage _).append (Shaped.optional hhealing _)

theorem attack_references_shaped (a : Attack) :
    Shaped ["attack.save", "attack.damage[].damageType"] (a.referenceFields.map (·.path)) := by
  have hsave : Shaped ["attack.save"] ((a.save.map fun r =>
      ReferenceField.mk "attack.save" r (some .abilityScores)).toList.map (·.path)) := by
    cases a.save with
    | none => exact .nil _
    | some r => exact .single "attack.save" (by decide)
  unfold Attack.referenceFields
  rw [List.map_append]
  refine hsave.append ?_
  rw [List.map_map]
  exact .indexed "attack.damage[" "].damageType" _ (by decide)

/-- An attack that names no save has no field for it. -/
theorem attack_references_unsaved {a : Attack} (h : a.save = none) :
    Shaped ["attack.damage[].damageType"] (a.referenceFields.map (·.path)) := by
  unfold Attack.referenceFields
  rw [h, List.map_append, List.map_map]
  exact .indexed "attack.damage[" "].damageType" _ (by decide)

theorem attack_dice_shaped (a : Attack) :
    Shaped ["attack.damage[].dice"] (a.diceFields.map (·.path)) := by
  unfold Attack.diceFields
  rw [List.map_map]
  exact .indexed "attack.damage[" "].dice" _ (by decide)

theorem progression_dice_shaped {field s : String} (h : shape (field ++ ".steps[" ++ "].dice") = s)
    (p : Progression) : Shaped [s] ((p.diceFields field).map (·.path)) := by
  unfold Progression.diceFields
  rw [List.map_map]
  exact .indexed (field ++ ".steps[") "].dice" _ h

/-- The references of a spell, with those of its attack at paths of some shapes. -/
theorem conditions_shaped (conditions : List Reference) :
    Shaped ["conditions[]"] ((conditions.zipIdx.map fun (r, i) =>
      ReferenceField.mk s!"conditions[{i}]" r (some .conditions)).map (·.path)) := by
  rw [List.map_map]
  exact .indexed "conditions[" "]" _ (by decide)

theorem spell_references_shaped_of {s : Spell} {shapes : List String}
    (h : Shaped shapes ((s.attack.toList.flatMap Attack.referenceFields).map (·.path))) :
    Shaped ("school" :: "conditions[]" :: shapes) (s.referenceFields.map (·.path)) := by
  have hschool : Shaped ["school"] ["school"] := .single _ (by decide)
  unfold Spell.referenceFields
  rw [List.map_append]
  exact (hschool.append (conditions_shaped s.conditions)).append h

theorem spell_references_shaped (s : Spell) :
    Shaped ["school", "conditions[]", "attack.save", "attack.damage[].damageType"]
      (s.referenceFields.map (·.path)) := by
  have hattack := Shaped.optional attack_references_shaped s.attack
  rw [← List.map_flatMap] at hattack
  exact spell_references_shaped_of hattack

theorem spell_dice_shaped (s : Spell) :
    Shaped ["attack.damage[].dice", "damageProgression.steps[].dice",
      "healingProgression.steps[].dice"] (s.diceFields.map (·.path)) := by
  have hattack := Shaped.optional attack_dice_shaped s.attack
  rw [← List.map_flatMap] at hattack
  have hdamage (p : Progression) : Shaped ["damageProgression.steps[].dice"]
      ((p.diceFields "damageProgression").map (·.path)) := progression_dice_shaped (by decide) p
  have hhealing (p : Progression) : Shaped ["healingProgression.steps[].dice"]
      ((p.diceFields "healingProgression").map (·.path)) := progression_dice_shaped (by decide) p
  have hprogressions := progressions_shaped DiceField.path (fun field p => p.diceFields field)
    hdamage hhealing s
  unfold Spell.diceFields
  rw [List.map_append]
  exact hattack.append hprogressions

theorem spell_templates_shaped (s : Spell) :
    Shaped ["desc", "higherLevels"] (s.templateFields.map (·.path)) := by
  have hdesc : Shaped ["desc"] ["desc"] := .single _ (by decide)
  have hhigher : Shaped ["higherLevels"] ((s.higherLevels.map fun text =>
      TemplateField.mk "higherLevels" text false).toList.map (·.path)) := by
    cases s.higherLevels with
    | none => exact .nil _
    | some text => exact .single "higherLevels" (by decide)
  exact hdesc.append hhigher

theorem record_references_nodup (r : Record) : (r.referenceFields.map (·.path)).Nodup := by
  unfold Record.referenceFields
  rw [List.map_map, List.nodup_iff_pairwise_ne, List.pairwise_map]
  refine Std.ExtTreeMap.distinct_keys_toList.imp ?_
  intro a b hne heq
  have hkey : a.1 = b.1 := (String.append_right_inj "links.").1 heq
  exact hne (Std.LawfulEqCmp.compare_eq_iff_eq.2 hkey)

theorem record_templates_path (r : Record) : ∀ p ∈ r.templateFields.map (·.path), p = "desc" := by
  unfold Record.templateFields
  cases r.desc <;> simp

/-- The paths of a spell, with those of the references of its attack of some shapes. -/
theorem spell_fieldPaths_shaped {s : Spell} {shapes : List String}
    (h : Shaped shapes ((s.attack.toList.flatMap Attack.referenceFields).map (·.path))) :
    Shaped ("school" :: "conditions[]" :: shapes ++ ["attack.damage[].dice",
      "damageProgression.steps[].dice", "healingProgression.steps[].dice"] ++
      ["desc", "higherLevels"]) (Entry.spell s).fieldPaths :=
  ((spell_references_shaped_of h).append (spell_dice_shaped s)).append (spell_templates_shaped s)

/-- **The paths of an entry are not repeated.** -/
theorem fieldPaths_nodup (e : Entry) : e.fieldPaths.Nodup := by
  unfold Entry.fieldPaths
  cases e with
  | spell s =>
    exact (((spell_references_shaped s).append (spell_dice_shaped s)).append
      (spell_templates_shaped s)).nodup (by decide)
  | record r =>
    have hreferences := record_references_nodup r
    have htemplates : (r.templateFields.map (·.path)).Nodup := by
      unfold Record.templateFields
      cases r.desc <;> simp
    show (r.referenceFields.map ReferenceField.path ++ [] ++
      r.templateFields.map TemplateField.path).Nodup
    rw [List.append_nil]
    refine List.nodup_append.2 ⟨hreferences, htemplates, ?_⟩
    rintro p hp _ hp' rfl
    -- the path of a link starts with another letter than that of the description
    obtain ⟨f, hf, rfl⟩ := List.mem_map.1 hp
    obtain ⟨⟨name, target⟩, -, rfl⟩ := List.mem_map.1 hf
    exact absurd (starts_of_append (record_templates_path r _ hp')) (by decide)

end Rulebook
