/-!
# Progressions

Damage or healing dice that grow with a level, a slot or the number of targets.

* `Basis`: what the keys of a table count.
* `Progression`: the table as it is authored, with formulas as texts.
* `Progression.baseKey`: the key that the table has to start at or below.
-/

namespace Rulebook

/-- What the keys of a progression count. -/
inductive Basis where
  | characterLevel
  | slotLevel
  | targetCount
  deriving DecidableEq, Repr

/-- One row of a progression: from `key` on, roll `dice`. -/
structure ProgressionStep where
  key : UInt32
  dice : String
  deriving DecidableEq, Repr

/-- A table of dice by key. -/
structure Progression where
  basis : Basis
  steps : List ProgressionStep
  deriving DecidableEq, Repr

/-- The key that a table of this basis has to start at or below, for a spell of a level. -/
def Basis.baseKey (level : UInt8) : Basis → UInt32
  | slotLevel => level.toUInt32
  | characterLevel | targetCount => 1

/-- The key that the table has to start at or below, for a spell of a level. -/
def Progression.baseKey (p : Progression) (level : UInt8) : UInt32 := p.basis.baseKey level

end Rulebook
