import Rulebook.Datum.Decoder
import Rulebook.Entry.Spell

/-!
# Names of alternatives

How the alternatives in entries are written in data.

* Instances of `Variants` for the plain alternatives.
* `RangeKind`, `DurationKind`: what a range and a duration name themselves.
-/

namespace Rulebook

instance : Variants Collection where
  all := Collection.all
  name := Collection.name
  find_name a := by cases a <;> decide

instance : Variants CastingUnit where
  all := [.action, .bonusAction, .reaction, .minute, .hour]
  name
    | .action => "action"
    | .bonusAction => "bonusAction"
    | .reaction => "reaction"
    | .minute => "minute"
    | .hour => "hour"
  find_name a := by cases a <;> decide

instance : Variants AreaShape where
  all := [.cone, .cube, .cylinder, .emanation, .line, .sphere]
  name
    | .cone => "cone"
    | .cube => "cube"
    | .cylinder => "cylinder"
    | .emanation => "emanation"
    | .line => "line"
    | .sphere => "sphere"
  find_name a := by cases a <;> decide

instance : Variants TimeUnit where
  all := [.round, .minute, .hour, .day]
  name
    | .round => "round"
    | .minute => "minute"
    | .hour => "hour"
    | .day => "day"
  find_name a := by cases a <;> decide

instance : Variants AttackKind where
  all := [.meleeSpellAttack, .rangedSpellAttack, .savingThrow, .automatic]
  name
    | .meleeSpellAttack => "meleeSpellAttack"
    | .rangedSpellAttack => "rangedSpellAttack"
    | .savingThrow => "savingThrow"
    | .automatic => "automatic"
  find_name a := by cases a <;> decide

instance : Variants EffectOnSave where
  all := [.halfDamage, .noEffect, .special]
  name
    | .halfDamage => "halfDamage"
    | .noEffect => "noEffect"
    | .special => "special"
  find_name a := by cases a <;> decide

instance : Variants Basis where
  all := [.characterLevel, .slotLevel, .targetCount]
  name
    | .characterLevel => "characterLevel"
    | .slotLevel => "slotLevel"
    | .targetCount => "targetCount"
  find_name a := by cases a <;> decide

/-- What a range names itself. -/
inductive RangeKind where
  | caster
  | touch
  | sight
  | unlimited
  | ranged
  | area
  deriving DecidableEq, Repr

instance : Variants RangeKind where
  all := [.caster, .touch, .sight, .unlimited, .ranged, .area]
  name
    | .caster => "self"
    | .touch => "touch"
    | .sight => "sight"
    | .unlimited => "unlimited"
    | .ranged => "ranged"
    | .area => "area"
  find_name a := by cases a <;> decide

/-- What a duration names itself. -/
inductive DurationKind where
  | instantaneous
  | timed
  | untilDispelled
  | special
  deriving DecidableEq, Repr

instance : Variants DurationKind where
  all := [.instantaneous, .timed, .untilDispelled, .special]
  name
    | .instantaneous => "instantaneous"
    | .timed => "timed"
    | .untilDispelled => "untilDispelled"
    | .special => "special"
  find_name a := by cases a <;> decide

end Rulebook
