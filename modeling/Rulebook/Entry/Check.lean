import Rulebook.Config.Basic
import Rulebook.Entry.Fields

/-!
# Structural rules

What can be wrong with an entry on its own, before its references, formulas and templates are
looked at. Every rule has a field of its own to report at.

* `Progression.findings`: the rules on a table of dice: not empty, keys strictly ascending, the
  first of them at or below the base.
* `Spell.findings`: all rules on a spell.
* `Entry.placement`: spells belong in the collection of spells, and nothing else does.
-/

namespace Rulebook

namespace Finding

/-- A broken rule. -/
def error (field message : String) : Finding := ⟨field, .error, .structural, message⟩

/-- Something that a rule says is of no use. -/
def warning (field message : String) : Finding := ⟨field, .warning, .structural, message⟩

end Finding

/-- The finding, if a rule is broken. -/
def findIf (broken : Bool) (finding : Finding) : List Finding := if broken then [finding] else []

/-- The findings on the elements of a list, each with its index. -/
def findEach {α : Type} (l : List α) (finding? : Nat → α → Option Finding) : List Finding :=
  l.zipIdx.filterMap fun (a, i) => finding? i a

/-- The highest level of a spell. -/
def maxSpellLevel : UInt8 := 9

namespace Progression

/-- The rule that a step has a higher key than the step before it, for step `i + 1`. -/
def ascentFinding? (field : String) (i : Nat) (pair : ProgressionStep × ProgressionStep) :
    Option Finding :=
  let (before, step) := pair
  if step.key ≤ before.key then
    some (.error s!"{field}.steps[{i + 1}].at"
      s!"keys must be strictly ascending: {step.key.toNat} follows {before.key.toNat}")
  else none

/-- The broken rules of a table in a field of a spell of a level. -/
def findings (p : Progression) (field : String) (level : UInt8) : List Finding :=
  match p.steps with
  | [] => [.error field "progression table has no steps"]
  | first :: rest =>
    findIf (p.baseKey level < first.key) (.error s!"{field}.steps[0].at"
      s!"first key {first.key.toNat} is above the base {(p.baseKey level).toNat}") ++
    findEach ((first :: rest).zip rest) (ascentFinding? field)

end Progression

namespace Spell

variable (s : Spell)

/-- The rule on the level. -/
def levelFindings : List Finding :=
  findIf (maxSpellLevel < s.level)
    (.error "level" s!"spell level {s.level.toNat} is above {maxSpellLevel.toNat}")

/-- The rules on casting times. -/
def castingTimeFindings : List Finding :=
  findIf s.castingTimes.isEmpty (.error "castingTimes" "at least one casting time is required") ++
  findEach s.castingTimes fun i t =>
    if t.amount = 0 then
      some (.error s!"castingTimes[{i}].amount" "casting time amount must be positive")
    else none

/-- The rules on durations. -/
def durationFindings : List Finding :=
  findIf s.durations.isEmpty (.error "durations" "at least one duration is required") ++
  findEach s.durations fun i d =>
    match d with
    | .timed amount .. =>
      if amount = 0 then
        some (.error s!"durations[{i}].amount" "timed duration must be positive")
      else none
    | _ => none

/-- The rules on an attack: one with a saving throw names the ability and says what a save does. -/
def attackFindings (config : BuildConfig) : List Finding :=
  match s.attack with
  | none => []
  | some a =>
    if a.kind.isSavingThrow then
      findIf a.effectOnSave.isNone (.error "attack.effectOnSave"
        "saving throw attacks must say what happens on a successful save") ++
      findIf a.save.isNone (.error "attack.save"
        "saving throw attacks must name the saving ability")
    else
      findIf (a.effectOnSave.isSome && config.effectOnSaveWarnings) (.warning "attack.effectOnSave"
        "effectOnSave is ignored for attacks without a saving throw")

/-- Every broken rule of a spell. -/
def findings (config : BuildConfig) : List Finding :=
  s.levelFindings ++ s.castingTimeFindings ++ s.durationFindings ++ s.attackFindings config ++
    s.progressions.flatMap fun (field, p) => p.findings field s.level

end Spell

namespace Entry

/-- The rule that spells, and only spells, are in the collection of spells. -/
def placement (c : Collection) : Entry → List Finding
  | spell _ => findIf (c ≠ .spells) (.error "id" s!"spell entries belong in spells, not {c.name}")
  | record _ => findIf (c = .spells) (.error "id" "spells collection holds a non-spell entry")

/-- Every broken rule of an entry in a collection. -/
def structuralFindings (e : Entry) (c : Collection) (config : BuildConfig) : List Finding :=
  e.placement c ++
    match e with
    | spell s => s.findings config
    | record _ => []

end Entry

end Rulebook
