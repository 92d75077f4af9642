import Rulebook.Entry.Basic

/-!
# Fields of an entry

The fields of an entry that have to be looked up or parsed, each with the path that it is
reported under.

* `ReferenceField`, `DiceField`, `TemplateField`: a field and its content.
* `Entry.referenceFields`, `Entry.diceFields`, `Entry.templateFields`: all fields of an entry.
-/

namespace Rulebook

/-- A reference, and the collection that its field accepts if it does not accept any. -/
structure ReferenceField where
  path : String
  target : Reference
  expected : Option Collection
  deriving DecidableEq, Repr

/-- The text of a formula. -/
structure DiceField where
  path : String
  source : String
  deriving DecidableEq, Repr

/-- The text of a template, and whether the entry is of no use without it. -/
structure TemplateField where
  path : String
  source : String
  required : Bool
  deriving DecidableEq, Repr

namespace Attack

/-- The reference fields of an attack. -/
def referenceFields (a : Attack) : List ReferenceField :=
  (a.save.map fun r => ⟨"attack.save", r, some .abilityScores⟩).toList ++
  a.damage.zipIdx.map fun (d, i) =>
    ⟨s!"attack.damage[{i}].damageType", d.damageType, some .damageTypes⟩

/-- The formulas of an attack. -/
def diceFields (a : Attack) : List DiceField :=
  a.damage.zipIdx.map fun (d, i) => ⟨s!"attack.damage[{i}].dice", d.dice⟩

end Attack

/-- The formulas of a progression in a field. -/
def Progression.diceFields (p : Progression) (field : String) : List DiceField :=
  p.steps.zipIdx.map fun (s, i) => ⟨s!"{field}.steps[{i}].dice", s.dice⟩

namespace Spell

variable (s : Spell)

/-- The progressions of a spell with their fields. -/
def progressions : List (String × Progression) :=
  (s.damageProgression.map ("damageProgression", ·)).toList ++
  (s.healingProgression.map ("healingProgression", ·)).toList

/-- The reference fields of a spell. -/
def referenceFields : List ReferenceField :=
  ⟨"school", s.school, some .magicSchools⟩ ::
  (s.conditions.zipIdx.map fun (r, i) => ⟨s!"conditions[{i}]", r, some .conditions⟩) ++
  s.attack.toList.flatMap Attack.referenceFields

/-- The formulas of a spell. -/
def diceFields : List DiceField :=
  s.attack.toList.flatMap Attack.diceFields ++
  s.progressions.flatMap fun (field, p) => p.diceFields field

/-- The templates of a spell. Only the description is required. -/
def templateFields : List TemplateField :=
  ⟨"desc", s.desc, true⟩ ::
  (s.higherLevels.map fun text => ⟨"higherLevels", text, false⟩).toList

end Spell

namespace Record

variable (r : Record)

/-- The reference fields of a record. They accept every collection. -/
def referenceFields : List ReferenceField :=
  r.links.toList.map fun (field, target) => ⟨s!"links.{field}", target, none⟩

/-- The templates of a record. -/
def templateFields : List TemplateField :=
  (r.desc.map fun text => ⟨"desc", text, false⟩).toList

end Record

namespace Entry

/-- The reference fields of an entry. -/
def referenceFields : Entry → List ReferenceField
  | spell s => s.referenceFields
  | record r => r.referenceFields

/-- The formulas of an entry. -/
def diceFields : Entry → List DiceField
  | spell s => s.diceFields
  | record _ => []

/-- The templates of an entry. -/
def templateFields : Entry → List TemplateField
  | spell s => s.templateFields
  | record r => r.templateFields

/-- The progressions of an entry with their fields. -/
def progressions : Entry → List (String × Progression)
  | spell s => s.progressions
  | record _ => []

end Entry

end Rulebook
