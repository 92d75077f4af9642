import Rulebook.Proofs.Entry.Account
import Rulebook.Proofs.Entry.WellFormed

/-!
# The tables of a spell that is fit for use

The dice for a key are looked up from the front of a table, up to the first step above the key. In a
table whose keys ascend, the last step before that one is the step with the greatest key that is not
above, and no step is missing where all formulas are read.

* `Progression.Gives`: the step of a table that is meant for a key.
* `getLast?_ascends_iff`, `mem_takeWhile_iff`: the front of an ascending list, and the last element
  of it.
* `resolve_steps`: no step is left out if all formulas are read.
* `ResolvedProgression.Follows`: what the resolved table says of the one that is authored.
* `progressions_follow`: **the tables of a spell that is fit for use give every key its step.**
-/

namespace Rulebook

/-- **The step that a table gives for a key**: of the steps that are not above the key, the one with
the greatest key. -/
structure Progression.Gives (p : Progression) (key : UInt32) (i : Nat) (step : ProgressionStep) :
    Prop where
  place : p.steps[i]? = some step
  below : step.key ≤ key
  greatest : ∀ other ∈ p.steps, other.key ≤ key → other.key ≤ step.key

/-- **A resolved table follows the one that is authored**, for a spell of a level. -/
structure ResolvedProgression.Follows (r : ResolvedProgression) (p : Progression) (level : UInt8) :
    Prop where
  basis : r.basis = p.basis
  /-- Every step is there, in order, with its key and its formula. -/
  steps : List.Forall₂ (fun step row => row.1 = step.key ∧ Formula.parse step.dice = .ok row.2)
    p.steps r.steps
  /-- The dice for a key are those of the step that is meant for it. -/
  dice : ∀ key φ, r.at? key = some φ ↔
    ∃ i step, p.Gives key i step ∧ Formula.parse step.dice = .ok φ
  /-- There are none exactly for the keys below the first one, -/
  below : ∃ first, p.steps.head? = some first ∧ ∀ key, r.at? key = none ↔ key < first.key
  /-- which is not above the base. -/
  base : ∀ key, p.baseKey level ≤ key → (r.at? key).isSome = true
  /-- A higher key is never given an earlier step. -/
  rising : ∀ key key' i i' step step', key ≤ key' → p.Gives key i step → p.Gives key' i' step' →
    i ≤ i'

/-! ## Lists with ascending keys -/

section

variable {α : Type} {key : α → UInt32} {l : List α}

/-- The front of an ascending list, up to the first key above `k`, is all that is not above `k`. -/
theorem mem_takeWhile_iff (h : (l.map key).Pairwise (· < ·)) {k : UInt32} {a : α} :
    a ∈ l.takeWhile (key · ≤ k) ↔ a ∈ l ∧ key a ≤ k := by
  induction l with
  | nil => simp
  | cons x l ih =>
    rw [List.map_cons, List.pairwise_cons] at h
    obtain ⟨hfirst, hrest⟩ := h
    by_cases hx : key x ≤ k
    · rw [List.takeWhile_cons_of_pos (by simpa using hx), List.mem_cons, ih hrest, List.mem_cons]
      constructor
      · rintro (rfl | ⟨ha, hk⟩)
        · exact ⟨.inl rfl, hx⟩
        · exact ⟨.inr ha, hk⟩
      · rintro ⟨rfl | ha, hk⟩
        · exact .inl rfl
        · exact .inr ⟨ha, hk⟩
    · -- all that come later are above `k` as well
      rw [List.takeWhile_cons_of_neg (by simpa using hx)]
      refine iff_of_false List.not_mem_nil ?_
      rintro ⟨ha, hk⟩
      rcases List.mem_cons.1 ha with rfl | ha
      · exact hx hk
      · have hlt := hfirst _ (List.mem_map_of_mem ha)
        exact hx (UInt32.le_trans (UInt32.le_of_lt hlt) hk)

/-- The last element of an ascending list is the one with the greatest key. -/
theorem getLast?_ascends_iff (h : (l.map key).Pairwise (· < ·)) {a : α} :
    l.getLast? = some a ↔ a ∈ l ∧ ∀ x ∈ l, key x ≤ key a := by
  have hlast {b : α} {front : List α} (hl : l = front ++ [b]) : ∀ x ∈ front, key x < key b := by
    intro x hx
    rw [hl, List.map_append, List.pairwise_append] at h
    exact h.2.2 _ (List.mem_map_of_mem hx) _ (List.mem_singleton_self _)
  constructor
  · intro ha
    obtain ⟨front, hl⟩ := List.getLast?_eq_some_iff.1 ha
    refine ⟨List.mem_of_getLast? ha, fun x hx => ?_⟩
    rw [hl, List.mem_append, List.mem_singleton] at hx
    rcases hx with hx | rfl
    · exact UInt32.le_of_lt (hlast hl x hx)
    · exact UInt32.le_refl _
  · rintro ⟨ha, hgreatest⟩
    cases hb : l.getLast? with
    | none =>
      rw [List.getLast?_eq_none_iff.1 hb] at ha
      cases ha
    | some b =>
      obtain ⟨front, hl⟩ := List.getLast?_eq_some_iff.1 hb
      rw [hl, List.mem_append, List.mem_singleton] at ha
      rcases ha with ha | rfl
      · exact absurd (hgreatest b (List.mem_of_getLast? hb)) (UInt32.not_le.2 (hlast hl a ha))
      · rfl

/-- In an ascending list the element with the lower key comes first. -/
theorem index_le_of_key_le (h : (l.map key).Pairwise (· < ·)) {i j : Nat} {a b : α}
    (ha : l[i]? = some a) (hb : l[j]? = some b) (hle : key a ≤ key b) : i ≤ j := by
  by_contra hlt
  obtain ⟨hi, rfl⟩ := List.getElem?_eq_some_iff.1 ha
  obtain ⟨hj, rfl⟩ := List.getElem?_eq_some_iff.1 hb
  have hkeys := List.pairwise_iff_getElem.1 h j i (by simpa using hj) (by simpa using hi) (by omega)
  rw [List.getElem_map, List.getElem_map] at hkeys
  exact UInt32.not_le.2 hkeys hle

end

/-! ## Resolved tables -/

/-- **The dice for a key**, in a resolved table with ascending keys, are those of the step with the
greatest key that is not above. -/
theorem at?_eq_some_iff {r : ResolvedProgression} (h : (r.steps.map (·.1)).Pairwise (· < ·))
    {key : UInt32} {φ : Formula} : r.at? key = some φ ↔
      ∃ row ∈ r.steps, row.1 ≤ key ∧ (∀ x ∈ r.steps.map (·.1), x ≤ key → x ≤ row.1) ∧
        row.2 = φ := by
  have hfront : ((r.steps.takeWhile (·.1 ≤ key)).map (·.1)).Pairwise (· < ·) :=
    h.sublist ((List.takeWhile_sublist _).map _)
  unfold ResolvedProgression.at?
  rw [Option.map_eq_some_iff]
  refine exists_congr fun row => ?_
  rw [getLast?_ascends_iff hfront, mem_takeWhile_iff h, List.forall_mem_map, and_assoc, and_assoc]
  refine and_congr_right fun _ => and_congr_right fun _ => and_congr_left fun _ => ?_
  refine forall_congr' fun x => ?_
  rw [mem_takeWhile_iff h, and_imp]

theorem at?_eq_none_iff {r : ResolvedProgression} {first : UInt32 × Formula}
    (h : r.steps.head? = some first) {key : UInt32} : r.at? key = none ↔ key < first.1 := by
  obtain ⟨basis, _ | ⟨row, rows⟩⟩ := r
  · cases h
  · cases h
    unfold ResolvedProgression.at?
    rw [Option.map_eq_none_iff, List.getLast?_eq_none_iff, ← UInt32.not_le]
    by_cases hle : first.1 ≤ key <;> simp [hle]

section

variable {p : Progression} {level : UInt8}

/-- **No step is left out** if all formulas are read. -/
theorem resolve_steps (h : ∀ step ∈ p.steps, Formula.Accepts step.dice) :
    List.Forall₂ (fun step row => row.1 = step.key ∧ Formula.parse step.dice = .ok row.2)
      p.steps p.resolve.steps := by
  unfold Progression.resolve
  generalize p.steps = steps at h
  induction steps with
  | nil => exact .nil
  | cons step steps ih =>
    obtain ⟨⟨φ, hφ⟩, hrest⟩ := List.forall_mem_cons.1 h
    rw [List.filterMap_cons_some (by rw [hφ]; rfl)]
    exact .cons ⟨rfl, hφ⟩ (ih hrest)

theorem resolve_keys (h : ∀ step ∈ p.steps, Formula.Accepts step.dice) :
    p.resolve.steps.map (·.1) = p.steps.map (·.key) := by
  have hkeys : List.Forall₂ (fun step row => row.1 = step.key) p.steps p.resolve.steps :=
    (resolve_steps h).imp fun _ _ hrow => hrow.1
  rw [← List.forall₂_eq_eq_eq, List.forall₂_map_left_iff, List.forall₂_map_right_iff]
  exact hkeys.flip

/-- A row of a resolved table comes from a step whose formula is read. -/
theorem mem_resolve_steps_iff {row : UInt32 × Formula} : row ∈ p.resolve.steps ↔
    ∃ step ∈ p.steps, Formula.parse step.dice = .ok row.2 ∧ step.key = row.1 := by
  obtain ⟨key, φ⟩ := row
  unfold Progression.resolve
  rw [List.mem_filterMap]
  refine exists_congr fun step => and_congr_right fun _ => ?_
  rw [Option.map_eq_some_iff, ← toOption_eq_some_iff]
  simp

/-- A higher key is never given an earlier step. -/
theorem gives_mono (h : (p.steps.map (·.key)).Pairwise (· < ·)) {key key' : UInt32} {i i' : Nat}
    {step step' : ProgressionStep} (hle : key ≤ key') (hgives : p.Gives key i step)
    (hgives' : p.Gives key' i' step') : i ≤ i' := by
  refine index_le_of_key_le h hgives.place hgives'.place ?_
  exact hgives'.greatest step (List.mem_of_getElem? hgives.place) (UInt32.le_trans hgives.below hle)

/-- The dice for a key are those of the step that is given for it. -/
theorem at?_resolve_iff (hascends : (p.steps.map (·.key)).Pairwise (· < ·))
    (hparsed : ∀ step ∈ p.steps, Formula.Accepts step.dice) {key : UInt32} {φ : Formula} :
    p.resolve.at? key = some φ ↔
      ∃ i step, p.Gives key i step ∧ Formula.parse step.dice = .ok φ := by
  have hkeys := resolve_keys hparsed
  rw [at?_eq_some_iff (hkeys ▸ hascends), hkeys]
  constructor
  · rintro ⟨row, hmem, hle, hgreatest, rfl⟩
    obtain ⟨step, hmem, hφ, hkey⟩ := mem_resolve_steps_iff.1 hmem
    obtain ⟨i, hi⟩ := List.getElem?_of_mem hmem
    rw [← hkey] at hle hgreatest
    exact ⟨i, step, ⟨hi, hle, List.forall_mem_map.1 hgreatest⟩, hφ⟩
  · rintro ⟨i, step, ⟨hi, hle, hgreatest⟩, hφ⟩
    have hmem : (step.key, φ) ∈ p.resolve.steps :=
      mem_resolve_steps_iff.2 ⟨step, List.mem_of_getElem? hi, hφ, rfl⟩
    exact ⟨_, hmem, hle, List.forall_mem_map.2 hgreatest, rfl⟩

/-- **A well-formed table whose formulas are read is followed** by its resolved one. -/
theorem resolve_follows (hsound : p.WellFormed level)
    (hparsed : ∀ step ∈ p.steps, Formula.Accepts step.dice) : p.resolve.Follows p level := by
  obtain ⟨⟨first, hfirst, hbase⟩, hascends⟩ := hsound
  have hnone : ∀ key, p.resolve.at? key = none ↔ key < first.key := by
    obtain ⟨rest, hsteps⟩ := List.head?_eq_some_iff.1 hfirst
    have hrows := resolve_steps hparsed
    rw [hsteps] at hrows
    intro key
    cases hr : p.resolve.steps with
    | nil => rw [hr] at hrows; cases hrows
    | cons row rows =>
      rw [hr] at hrows
      obtain ⟨⟨hkey, -⟩, -⟩ := List.forall₂_cons.1 hrows
      have hrow : p.resolve.steps.head? = some row := by rw [hr]; rfl
      rw [at?_eq_none_iff hrow, hkey]
  refine ⟨rfl, resolve_steps hparsed, fun key φ => at?_resolve_iff hascends hparsed,
    ⟨first, hfirst, hnone⟩, fun key hkey => ?_, ?_⟩
  · rw [Option.isSome_iff_ne_none, Ne, hnone, UInt32.not_lt]
    exact UInt32.le_trans hbase hkey
  · intro key key' i i' step step' hle hgives hgives'
    exact gives_mono hascends hle hgives hgives'

end

/-! ## The tables of a spell -/

section

variable {s : Spell} {c : Collection} {registry : Registry} {config : BuildConfig}

/-- Both tables of a spell are kept in fields of their own. -/
theorem progression_resolved {field : String} {p : Progression} (h : (field, p) ∈ s.progressions) :
    ((Entry.spell s).resolve c registry config).progressions.get? field = some p.resolve := by
  have hfields : (s.progressions.map (·.1)).Nodup := by
    unfold Spell.progressions
    cases s.damageProgression <;> cases s.healingProgression <;> simp
  exact (byPath_get?_iff hfields).2 ⟨(field, p), h, rfl, rfl⟩

/-- **The tables of a spell that is fit for use give every key its step**: all steps are there, the
dice for a key are those of the step with the greatest key that is not above, there are dice for
every key from the base on, and a higher key never leads back to an earlier step. -/
theorem progressions_follow (h : ((Entry.spell s).resolve c registry config).valid = true) :
    (∀ p ∈ s.damageProgression, ∃ r, r.Follows p s.level ∧
      ((Entry.spell s).resolve c registry config).progressions.get? "damageProgression" = some r) ∧
    ∀ p ∈ s.healingProgression, ∃ r, r.Follows p s.level ∧
      ((Entry.spell s).resolve c registry config).progressions.get? "healingProgression" =
        some r := by
  obtain ⟨-, hsound, -, hparsed⟩ := spell_isValid_iff.1 h
  constructor
  · intro p hp
    exact ⟨_, resolve_follows (hsound.damageProgression p hp) (hparsed.damageProgression p hp),
      progression_resolved (mem_progressions_iff.2 (.inl ⟨rfl, hp⟩))⟩
  · intro p hp
    exact ⟨_, resolve_follows (hsound.healingProgression p hp) (hparsed.healingProgression p hp),
      progression_resolved (mem_progressions_iff.2 (.inr ⟨rfl, hp⟩))⟩

end

/-- A table of a cantrip: more dice from level 5 on. -/
def boltTable : Progression := ⟨.characterLevel, [⟨1, "1d10"⟩, ⟨5, "2d10"⟩]⟩

/-- A cantrip with the table. -/
def bolt : Spell where
  id := "bolt"
  name := "Bolt"
  level := 0
  school := ⟨.magicSchools, "evocation"⟩
  castingTimes := [⟨1, .action, none⟩]
  range := .ranged 120
  durations := [.instantaneous]
  damageProgression := some boltTable
  desc := "Strikes for %\x7bdice 1d10\x7d."

/-- A registry with the school of the cantrip. -/
def evocation : Registry := .ofBatches [.unlabelled .magicSchools [.record { id := "evocation" }]]

/-- The cantrip is fit for use. At level 4 it still has the dice of level 1, and there are none at
level 0. -/
theorem progressions_follow_bolt :
    ((Entry.spell bolt).resolve .spells evocation {}).valid = true ∧
    ∃ r, r.Follows boltTable 0 ∧
      ((Entry.spell bolt).resolve .spells evocation {}).progressions.get? "damageProgression" =
        some r ∧
      r.at? 4 = some ⟨[⟨.plus, .dice ⟨1, 10, none⟩⟩]⟩ ∧ r.at? 0 = none := by
  have hvalid : ((Entry.spell bolt).resolve .spells evocation {}).valid = true := by
    decide +kernel
  obtain ⟨r, hfollows, hr⟩ := (progressions_follow hvalid).1 boltTable rfl
  refine ⟨hvalid, r, hfollows, hr, ?_, ?_⟩
  · have hgives : boltTable.Gives 4 0 ⟨1, "1d10"⟩ := ⟨rfl, by decide, by decide⟩
    have hparse : Formula.parse "1d10" = .ok ⟨[⟨.plus, .dice ⟨1, 10, none⟩⟩]⟩ :=
      toOption_eq_some_iff.1 (by decide +kernel)
    exact (hfollows.dice 4 _).2 ⟨0, _, hgives, hparse⟩
  · obtain ⟨first, hfirst, hnone⟩ := hfollows.below
    cases hfirst
    exact (hnone 0).2 (by decide)

end Rulebook
