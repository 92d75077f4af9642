import Rulebook.Formula.Basic

/-!
# Totals of a formula

The totals are exact integers. A formula whose totals leave the range of 64-bit integers on the
way, term by term from the left, is refused.

* `Bindings`: the values of the symbols.
* `Interval`: a lowest and a highest total.
* `Formula.bounds`: the lowest and the highest total of a formula.
* `Formula.average`: the expected total, in floating point.
-/

namespace Rulebook

/-- The values of the symbols, where they are known. -/
structure Bindings where
  modifier : Option Int64 := none
  deriving DecidableEq

/-- The value of a symbol. -/
def Bindings.get? (b : Bindings) : Symbol → Option Int64
  | .modifier => b.modifier

/-- Why a formula has no totals. -/
inductive EvalError where
  /-- A symbol of the formula is not bound. -/
  | unbound (s : Symbol)
  /-- A total does not fit in 64 bits. -/
  | overflow
  deriving DecidableEq, Repr

/-- The error in one line. -/
def EvalError.message : EvalError → String
  | unbound s => s!"symbol {s.name} is not bound"
  | overflow => "dice total overflows"

/-- A lowest and a highest total. -/
structure Interval where
  low : Int
  high : Int
  deriving DecidableEq, Repr

/-- Whether an integer fits in 64 bits, with sign. -/
def fits (n : Int) : Bool := Int64.minValue.toInt ≤ n && n ≤ Int64.maxValue.toInt

/-- The integer, if it fits in 64 bits. -/
def fitting (n : Int) : Except EvalError Int := if fits n then .ok n else .error .overflow

namespace Interval

/-- Both ends, if they fit in 64 bits. -/
def fitting (i : Interval) : Except EvalError Interval := do
  let low ← Rulebook.fitting i.low
  let high ← Rulebook.fitting i.high
  return ⟨low, high⟩

/-- The totals of a sum or a difference. Subtraction swaps the ends. -/
def join (i : Interval) : Sign → Interval → Interval
  | .plus, j => ⟨i.low + j.low, i.high + j.high⟩
  | .minus, j => ⟨i.low - j.high, i.high - j.low⟩

end Interval

namespace Roll

/-- The totals of a roll: all dice show 1, or all show their number of sides. The highest total
has to fit in 64 bits also before the factor is applied. -/
def bounds (r : Roll) : Except EvalError Interval := do
  let count : Int := r.count.toNat
  let low ← fitting (count * r.factor.toNat)
  let dice ← fitting (count * r.sides.toNat)
  let high ← fitting (dice * r.factor.toNat)
  return ⟨low, high⟩

/-- The expected total of a roll. -/
def average (r : Roll) : Float :=
  r.count.toFloat * (r.sides.toFloat + 1.0) / 2.0 * r.factor.toFloat

end Roll

namespace Term

/-- The totals of one term. -/
def bounds (b : Bindings) : Term → Except EvalError Interval
  | dice r => r.bounds
  | flat n => .ok ⟨n.toNat, n.toNat⟩
  | symbol s =>
    match b.get? s with
    | some v => .ok ⟨v.toInt, v.toInt⟩
    | none => .error (.unbound s)

/-- The expected total of one term. -/
def average (b : Bindings) : Term → Except EvalError Float
  | dice r => .ok r.average
  | flat n => .ok n.toFloat
  | symbol s =>
    match b.get? s with
    | some v => .ok v.toFloat
    | none => .error (.unbound s)

end Term

/-- The sign as a factor. -/
def Sign.factor : Sign → Float
  | plus => 1.0
  | minus => -1.0

namespace Formula

/-- The totals of the terms read so far, joined with one more term. -/
def addTerm (b : Bindings) (i : Interval) (t : SignedTerm) : Except EvalError Interval := do
  let j ← t.term.bounds b
  (i.join t.sign j).fitting

/-- The lowest and the highest total of a formula. -/
def bounds (f : Formula) (b : Bindings) : Except EvalError Interval :=
  f.terms.foldlM (addTerm b) ⟨0, 0⟩

/-- The expected total of the terms read so far, with one more term. -/
def addAverage (b : Bindings) (total : Float) (t : SignedTerm) : Except EvalError Float := do
  let value ← t.term.average b
  return total + t.sign.factor * value

/-- The expected total of a formula, for one that has bounds. -/
def average (f : Formula) (b : Bindings) : Except EvalError Float := do
  let _ ← f.bounds b
  f.terms.foldlM (addAverage b) 0.0

end Formula

end Rulebook
