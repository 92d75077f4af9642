import Rulebook.Entry.Check
import Rulebook.Proofs.Entry.Paths

/-!
# Where structural rules report

Every structural rule reports at a field of its own: what is found by different rules is at fields
of different shapes, and what one rule finds about the elements of a list is at their indices.

* `Structural`: structural findings at fields of some shapes. It holds of the findings of each rule,
  and of two rules in a row.
* `structural_nodup`: **no two structural findings on an entry are at the same field.**
-/

namespace Rulebook

/-- **Structural findings**, at fields of some shapes. -/
structure Structural (shapes : List String) (findings : List Finding) : Prop where
  fields : Shaped shapes (findings.map (·.field))
  kind : ∀ f ∈ findings, f.kind = .structural

namespace Structural

variable {s : String} {shapes shapes' : List String} {findings findings' : List Finding}

theorem nil (shapes : List String) : Structural shapes [] := ⟨.nil shapes, by simp⟩

theorem append (h : Structural shapes findings) (h' : Structural shapes' findings') :
    Structural (shapes ++ shapes') (findings ++ findings') where
  fields := by
    rw [List.map_append]
    exact h.fields.append h'.fields
  kind := List.forall_mem_append.2 ⟨h.kind, h'.kind⟩

end Structural

/-- What is found among some items is in their order, each with the label of its item. -/
theorem filterMap_sublist {α β γ : Type} {find? : α → Option β} {label : β → γ} {path : α → γ}
    (h : ∀ a b, find? a = some b → label b = path a) (l : List α) :
    ((l.filterMap find?).map label).Sublist (l.map path) := by
  induction l with
  | nil => exact List.Sublist.slnil
  | cons a l ih =>
    rw [List.map_cons]
    cases hfound : find? a with
    | none =>
      rw [List.filterMap_cons_none hfound]
      exact ih.cons (path a)
    | some b =>
      rw [List.filterMap_cons_some hfound, List.map_cons, h a b hfound]
      exact ih.cons_cons (path a)

/-- A rule on the entry itself reports once at most. -/
theorem findIf_sublist (broken : Bool) (finding : Finding) :
    ((findIf broken finding).map (·.field)).Sublist [finding.field] := by
  cases broken with
  | false => exact List.nil_sublist _
  | true => exact List.Sublist.refl _

theorem forall_mem_findIf {P : Finding → Prop} {finding : Finding} (broken : Bool)
    (h : P finding) : ∀ f ∈ findIf broken finding, P f := by
  cases broken with
  | false => exact List.forall_mem_nil _
  | true => exact List.forall_mem_singleton.2 h

theorem Structural.findIf {s : String} {finding : Finding} (field : String) (broken : Bool)
    (hkind : finding.kind = .structural) (hfield : finding.field = field) (h : shape field = s) :
    Structural [s] (Rulebook.findIf broken finding) where
  fields := by
    subst hfield
    exact (Shaped.single _ h).sublist (findIf_sublist broken finding)
  kind := forall_mem_findIf broken hkind

/-- A rule on each element of a list reports at the index of the element. -/
theorem findEach_sublist {α : Type} {finding? : Nat → α → Option Finding} {path : Nat → String}
    (h : ∀ i a f, finding? i a = some f → f.field = path i) (l : List α) :
    ((findEach l finding?).map (·.field)).Sublist ((List.range l.length).map path) := by
  have hsub := filterMap_sublist (fun p f => h p.2 p.1 f) l.zipIdx
  rwa [List.range_eq_range', ← List.zipIdx_map_snd, List.map_map]

theorem forall_mem_findEach {α : Type} {P : Finding → Prop} {finding? : Nat → α → Option Finding}
    (h : ∀ i a f, finding? i a = some f → P f) (l : List α) : ∀ f ∈ findEach l finding?, P f := by
  intro f hf
  obtain ⟨⟨a, i⟩, -, hf⟩ := List.mem_filterMap.1 hf
  exact h i a f hf

/-- **A rule on each element of a list.** -/
theorem Structural.findEach {α : Type} {s : String} (before after : String)
    {finding? : Nat → α → Option Finding} (hs : shape (before ++ after) = s)
    (h : ∀ i a f, finding? i a = some f →
      f.field = before ++ toString i ++ after ∧ f.kind = .structural) (l : List α) :
    Structural [s] (Rulebook.findEach l finding?) where
  fields := (Shaped.numbered before after l.length hs).sublist
    (findEach_sublist (fun i a f hf => (h i a f hf).1) l)
  kind := forall_mem_findEach (fun i a f hf => (h i a f hf).2) l

/-! ## The rules on a spell -/

theorem castingTimes_structural (s : Spell) :
    Structural ["castingTimes", "castingTimes[].amount"] s.castingTimeFindings := by
  refine (Structural.findIf "castingTimes" _ rfl rfl (by decide)).append
    (.findEach "castingTimes[" "].amount" (by decide) ?_ _)
  intro i t f hf
  obtain ⟨-, hf⟩ := Option.ite_none_right_eq_some.1 hf
  cases hf
  exact ⟨rfl, rfl⟩

theorem durations_structural (s : Spell) :
    Structural ["durations", "durations[].amount"] s.durationFindings := by
  refine (Structural.findIf "durations" _ rfl rfl (by decide)).append
    (.findEach "durations[" "].amount" (by decide) ?_ _)
  intro i d f hf
  cases d with
  | timed amount unit concentration =>
    obtain ⟨-, hf⟩ := Option.ite_none_right_eq_some.1 hf
    cases hf
    exact ⟨rfl, rfl⟩
  | instantaneous => cases hf
  | untilDispelled => cases hf
  | special => cases hf

theorem attack_structural (s : Spell) (config : BuildConfig) :
    Structural ["attack.effectOnSave", "attack.save"] (s.attackFindings config) := by
  unfold Spell.attackFindings
  cases s.attack with
  | none => exact .nil _
  | some a =>
    by_cases h : a.kind.isSavingThrow = true
    · simp only [if_pos h]
      exact (Structural.findIf "attack.effectOnSave" _ rfl rfl (by decide)).append
        (.findIf "attack.save" _ rfl rfl (by decide))
    · simp only [if_neg h]
      rw [← List.append_nil (findIf _ _)]
      exact (Structural.findIf "attack.effectOnSave" _ rfl rfl (by decide)).append
        (.nil ["attack.save"])

/-- The rule on a pair of neighbours reports at the second one, which has a higher index than the
pair. -/
theorem ascentFinding?_structural {field : String} {i : Nat}
    {pair : ProgressionStep × ProgressionStep} {f : Finding}
    (h : Progression.ascentFinding? field i pair = some f) :
    f.field = field ++ ".steps[" ++ toString (i + 1) ++ "].at" ∧ f.kind = .structural := by
  obtain ⟨before, step⟩ := pair
  obtain ⟨-, h⟩ := Option.ite_none_right_eq_some.1 h
  cases h
  exact ⟨rfl, rfl⟩

theorem firstStep_path (field : String) :
    field ++ ".steps[0].at" = field ++ ".steps[" ++ toString 0 ++ "].at" := by
  rw [String.append_assoc, String.append_assoc]
  rfl

/-- **The rules on a table of dice.** The rule on the first key reports at index 0, where the rule
on neighbours does not. -/
theorem progression_structural {field empty step : String} (hempty : shape field = empty)
    (hstep : shape (field ++ ".steps[" ++ "].at") = step) (level : UInt8) (p : Progression) :
    Structural [empty, step] (p.findings field level) := by
  unfold Progression.findings
  cases p.steps with
  | nil => exact (Structural.findIf field true rfl rfl hempty).append (.nil [step])
  | cons first rest =>
    have hfirst := firstStep_path field
    have hsteps := Shaped.numbered (field ++ ".steps[") "].at" (rest.length + 1) hstep
    -- the base takes index 0, and the neighbours `i` and `i + 1` take index `i + 1`
    refine ⟨((Shaped.nil [empty]).append hsteps).sublist ?_, ?_⟩
    · rw [List.nil_append, List.range_succ_eq_map, List.map_cons, List.map_map, List.map_append,
        ← hfirst]
      refine (findIf_sublist _ _).append ?_
      have hpairs : ((first :: rest).zip rest).length = rest.length := by simp
      rw [← hpairs]
      refine findEach_sublist ?_ _
      intro i pair f hf
      exact (ascentFinding?_structural hf).1
    · refine List.forall_mem_append.2 ⟨forall_mem_findIf _ rfl, forall_mem_findEach ?_ _⟩
      intro i pair f hf
      exact (ascentFinding?_structural hf).2

theorem progressions_structural (s : Spell) :
    Structural ["damageProgression", "damageProgression.steps[].at", "healingProgression",
      "healingProgression.steps[].at"]
      (s.progressions.flatMap fun (field, p) => p.findings field s.level) := by
  have hall (field : String) (p : Progression) :
      Structural [shape field, shape (field ++ ".steps[" ++ "].at")] (p.findings field s.level) :=
    progression_structural rfl rfl s.level p
  refine ⟨?_, ?_⟩
  · exact progressions_shaped Finding.field (fun field p => p.findings field s.level)
      (fun p => (hall "damageProgression" p).fields)
      (fun p => (hall "healingProgression" p).fields) s
  · exact List.forall_mem_flatMap.2 fun q _ => (hall q.1 q.2).kind

/-- The rules on a spell, with those on its attack at fields of some shapes. -/
theorem spell_structural_of {s : Spell} {config : BuildConfig} {shapes : List String}
    (h : Structural shapes (s.attackFindings config)) :
    Structural (["level", "castingTimes", "castingTimes[].amount", "durations",
      "durations[].amount"] ++ shapes ++ ["damageProgression", "damageProgression.steps[].at",
      "healingProgression", "healingProgression.steps[].at"]) (s.findings config) := by
  have hlevel : Structural ["level"] s.levelFindings :=
    .findIf "level" _ rfl rfl (by decide)
  exact (((hlevel.append (castingTimes_structural s)).append (durations_structural s)).append
    h).append (progressions_structural s)

theorem spell_structural (s : Spell) (config : BuildConfig) :
    Structural ["level", "castingTimes", "castingTimes[].amount", "durations", "durations[].amount",
      "attack.effectOnSave", "attack.save", "damageProgression", "damageProgression.steps[].at",
      "healingProgression", "healingProgression.steps[].at"] (s.findings config) :=
  spell_structural_of (attack_structural s config)

/-! ## The rules on an entry -/

/-- The rules on an entry report at different fields. -/
theorem entry_structural (e : Entry) (c : Collection) (config : BuildConfig) :
    ∃ shapes : List String, shapes.Nodup ∧ Structural shapes (e.structuralFindings c config) := by
  have hplacement : Structural ["id"] (e.placement c) := by
    cases e with
    | spell s => exact .findIf "id" _ rfl rfl (by decide)
    | record r => exact .findIf "id" _ rfl rfl (by decide)
  cases e with
  | spell s => exact ⟨_, by decide, hplacement.append (spell_structural s config)⟩
  | record r => exact ⟨_, by decide, hplacement.append (.nil [])⟩

theorem structural_kind (e : Entry) (c : Collection) (config : BuildConfig) :
    ∀ f ∈ e.structuralFindings c config, f.kind = .structural := by
  obtain ⟨shapes, -, h⟩ := entry_structural e c config
  exact h.kind

/-- **No two structural findings on an entry are at the same field.** -/
theorem structural_nodup (e : Entry) (c : Collection) (config : BuildConfig) :
    ((e.structuralFindings c config).map (·.field)).Nodup := by
  obtain ⟨shapes, hshapes, h⟩ := entry_structural e c config
  exact h.fields.nodup hshapes

/-! ## The fields of rules and of contents -/

/-- An attack that names a save is not asked for it. -/
theorem attack_structural_saved {s : Spell} {a : Attack} (ha : s.attack = some a)
    (hsave : a.save.isNone = false) (config : BuildConfig) :
    Structural ["attack.effectOnSave"] (s.attackFindings config) := by
  unfold Spell.attackFindings
  simp only [ha, hsave]
  by_cases h : a.kind.isSavingThrow = true
  · rw [if_pos h]
    exact (Structural.findIf "attack.effectOnSave" _ rfl rfl (by decide)).append (.nil [])
  · rw [if_neg h]
    exact .findIf "attack.effectOnSave" _ rfl rfl (by decide)

/-- **The rules on a spell report where none of its references, formulas and templates is.** Only
the save of an attack has a rule and a reference at one path: the rule if it is not named, and the
reference if it is. -/
theorem spell_rules_apart (s : Spell) (config : BuildConfig) :
    ∀ p ∈ (s.findings config).map (·.field), p ∉ (Entry.spell s).fieldPaths := by
  have hunsaved (h : ∀ a ∈ s.attack, a.save = none) :
      Shaped ["attack.damage[].damageType"]
        ((s.attack.toList.flatMap Attack.referenceFields).map (·.path)) := by
    cases ha : s.attack with
    | none => exact .nil _
    | some a => simpa using attack_references_unsaved (h a ha)
  by_cases h : ∀ a ∈ s.attack, a.save = none
  · exact (spell_structural s config).fields.apart (spell_fieldPaths_shaped (hunsaved h))
      (by decide)
  · obtain ⟨a, h⟩ := Classical.not_forall.1 h
    obtain ⟨ha, hsave⟩ := Classical.not_imp.1 h
    have hsaved : a.save.isNone = false :=
      Bool.eq_false_iff.2 (mt Option.isNone_iff_eq_none.1 hsave)
    have hrules := spell_structural_of (attack_structural_saved ha hsaved config)
    have hreferences := Shaped.optional attack_references_shaped s.attack
    rw [← List.map_flatMap] at hreferences
    exact hrules.fields.apart (spell_fieldPaths_shaped hreferences) (by decide)

/-- No rule on a spell itself reports at the id, where a wrong collection is reported. -/
theorem spell_rules_not_id (s : Spell) (config : BuildConfig) :
    ∀ p ∈ (s.findings config).map (·.field), p ≠ "id" := by
  intro p hp hid
  have hapart := (spell_structural s config).fields.apart (Shaped.single "id" rfl) (by decide) p hp
  exact hapart (List.mem_singleton.2 hid)

theorem id_not_fieldPath (e : Entry) : "id" ∉ e.fieldPaths := by
  cases e with
  | spell s =>
    have hreferences := Shaped.optional attack_references_shaped s.attack
    rw [← List.map_flatMap] at hreferences
    exact (Shaped.single "id" rfl).apart (spell_fieldPaths_shaped hreferences) (by decide) "id"
      List.mem_cons_self
  | record r =>
    intro hid
    rcases List.mem_append.1 hid with hid | hid
    · have hid : "id" ∈ r.referenceFields.map ReferenceField.path ++ [] := hid
      rw [List.append_nil] at hid
      obtain ⟨f, hf, hpath⟩ := List.mem_map.1 hid
      obtain ⟨⟨name, target⟩, -, rfl⟩ := List.mem_map.1 hf
      exact absurd (starts_of_append hpath) (by decide)
    · exact absurd (record_templates_path r _ hid) (by decide)

/-- **Rules report where none of the references, formulas and templates of an entry is.** -/
theorem rules_apart (e : Entry) (c : Collection) (config : BuildConfig) :
    ∀ f ∈ e.structuralFindings c config, f.field ∉ e.fieldPaths := by
  have hplacement : ∀ f ∈ e.placement c, f.field = "id" := by
    cases e with
    | spell s => exact forall_mem_findIf _ rfl
    | record r => exact forall_mem_findIf _ rfl
  intro f hf
  rcases List.mem_append.1 hf with hf | hf
  · rw [hplacement f hf]
    exact id_not_fieldPath e
  · cases e with
    | spell s => exact spell_rules_apart s config _ (List.mem_map_of_mem hf)
    | record r => cases hf

end Rulebook
