import Rulebook.Entry.Progression
import Rulebook.Reference.Basic

/-!
# Spells

A spell as it is authored: formulas and templates are texts, and entries of other collections are
references.

* `CastingTime`, `SpellRange`, `Components`, `Duration`: how a spell is cast.
* `Attack`: how it hits, and its damage.
* `Spell`: the whole entry.
-/

namespace Rulebook

/-- The unit of a casting time. -/
inductive CastingUnit where
  | action
  | bonusAction
  | reaction
  | minute
  | hour
  deriving DecidableEq, Repr

/-- How long it takes to cast a spell, and what triggers it. -/
structure CastingTime where
  amount : UInt32
  unit : CastingUnit
  condition : Option String := none
  deriving DecidableEq, Repr

/-- The shape of an area around the caster. -/
inductive AreaShape where
  | cone
  | cube
  | cylinder
  | emanation
  | line
  | sphere
  deriving DecidableEq, Repr

/-- How far a spell reaches. -/
inductive SpellRange where
  | caster
  | touch
  | sight
  | unlimited
  | ranged (feet : UInt32)
  | area (shape : AreaShape) (feet : UInt32)
  deriving DecidableEq, Repr

/-- What a spell needs to be cast. -/
structure Components where
  verbal : Bool := false
  somatic : Bool := false
  material : Option String := none
  deriving DecidableEq, Repr

/-- The unit of a duration. -/
inductive TimeUnit where
  | round
  | minute
  | hour
  | day
  deriving DecidableEq, Repr

/-- How long a spell lasts. -/
inductive Duration where
  | instantaneous
  | timed (amount : UInt32) (unit : TimeUnit) (concentration : Bool)
  | untilDispelled
  | special
  deriving DecidableEq, Repr

/-- How an attack hits its target. -/
inductive AttackKind where
  | meleeSpellAttack
  | rangedSpellAttack
  | savingThrow
  | automatic
  deriving DecidableEq, Repr

/-- Whether the target of an attack saves against it. -/
def AttackKind.isSavingThrow : AttackKind → Bool
  | savingThrow => true
  | _ => false

/-- What happens to a target that saves. -/
inductive EffectOnSave where
  | halfDamage
  | noEffect
  | special
  deriving DecidableEq, Repr

/-- The damage of an attack: a formula and a damage type. -/
structure Damage where
  dice : String
  damageType : Reference
  deriving DecidableEq, Repr

/-- The attack of a spell. -/
structure Attack where
  kind : AttackKind
  save : Option Reference := none
  effectOnSave : Option EffectOnSave := none
  damage : List Damage := []
  deriving DecidableEq, Repr

/-- A spell. Its level is 0 for a cantrip; `desc` and `higherLevels` are templates. -/
structure Spell where
  id : String
  name : String
  level : UInt8
  school : Reference
  castingTimes : List CastingTime
  range : SpellRange
  components : Components := {}
  durations : List Duration
  ritual : Bool := false
  attack : Option Attack := none
  damageProgression : Option Progression := none
  healingProgression : Option Progression := none
  conditions : List Reference := []
  desc : String
  higherLevels : Option String := none
  deriving DecidableEq, Repr

end Rulebook
