/-!
# Shortest decimals

The decimal with the fewest digits among those that read back as a given floating-point number,
and of these the one nearest to it.

* `Binary`: a positive floating-point number as `mantissa · 2 ^ exponent`.
* `Decimal`: digits and the power of ten of the first of them.
* `Tie`: which of two decimals is taken that are equally near.
* `Binary.shortest`: the shortest decimal of a number.
-/

namespace Rulebook

/-- A fraction of natural numbers. -/
structure Ratio where
  num : Nat
  den : Nat

/-- The number `n · b ^ k`. -/
def Ratio.scaled (n b : Nat) (k : Int) : Ratio :=
  if k < 0 then ⟨n, b.pow k.natAbs⟩ else ⟨n * b.pow k.natAbs, 1⟩

/-- The order of two fractions. -/
def Ratio.compare (a b : Ratio) : Ordering := Ord.compare (a.num * b.den) (b.num * a.den)

/-- A positive number `mantissa · 2 ^ exponent`. `atBinade` says that the next smaller number is
only half as far away as the next larger one. -/
structure Binary where
  mantissa : Nat
  exponent : Int
  atBinade : Bool
  deriving Repr

/-- Digits, and the power of ten that the first of them counts. -/
structure Decimal where
  digits : List Char
  exponent : Int
  deriving DecidableEq, Repr

/-- Which of two decimals is taken that are equally near. -/
inductive Tie where
  /-- The one with an even last digit. -/
  | toEven
  /-- The larger one. -/
  | up
  deriving DecidableEq, Repr

/-- Whether the smaller of two neighbours is the one to take, by how far it is below compared to
half way. -/
def Tie.takesLower (tie : Tie) (lower : Nat) : Ordering → Bool
  | .lt => true
  | .gt => false
  | .eq => tie = .toEven && lower % 2 = 0

namespace Binary

/-- The absolute value of a number that is neither zero nor infinite. -/
def ofFloat (x : Float) : Binary :=
  let bits := x.toBits.toNat
  let fraction : Nat := bits % Nat.pow 2 52
  let biased : Nat := bits / Nat.pow 2 52 % Nat.pow 2 11
  if biased = 0 then ⟨fraction, -1074, false⟩
  else ⟨fraction + Nat.pow 2 52, (biased : Int) - 1075, fraction = 0 && biased ≠ 1⟩

variable (b : Binary)

/-- The number. -/
def value : Ratio := .scaled (4 * b.mantissa) 2 (b.exponent - 2)

/-- Half way to the next smaller number. -/
def lower : Ratio := .scaled (4 * b.mantissa - if b.atBinade then 1 else 2) 2 (b.exponent - 2)

/-- Half way to the next larger number. -/
def upper : Ratio := .scaled (4 * b.mantissa + 2) 2 (b.exponent - 2)

/-- Whether a decimal reads back as the number. The ends of the range do if the mantissa is even. -/
def covers (x : Ratio) : Bool :=
  match b.lower.compare x, x.compare b.upper with
  | .lt, .lt => true
  | .eq, .lt | .lt, .eq => b.mantissa % 2 = 0
  | _, _ => false

/-- The power of ten of the first digit of the number. -/
def magnitude : Int :=
  let v := b.value
  if v.den ≤ v.num then ((Nat.toDigits 10 (v.num / v.den)).length : Int) - 1
  else
    let n := (Nat.toDigits 10 (v.den / v.num)).length
    if v.den ≤ v.num * Nat.pow 10 (n - 1) then -((n : Int) - 1) else -(n : Int)

/-- The decimals of `n` digits right below and right above the number, nearest first. -/
def neighbours (tie : Tie) (n : Nat) : List (Nat × Int) :=
  let unit := b.magnitude - n + 1
  let v := b.value
  let q := Ratio.scaled v.num 10 (-unit)
  let floor := q.num / (q.den * v.den)
  let below := 2 * (q.num % (q.den * v.den))
  if tie.takesLower floor (compare below (q.den * v.den)) then [(floor, unit), (floor + 1, unit)]
  else [(floor + 1, unit), (floor, unit)]

/-- The shortest decimal that reads back as the number. Seventeen digits are always enough. -/
def shortest (tie : Tie) : Decimal :=
  let grids := (List.range 17).flatMap fun n => b.neighbours tie (n + 1)
  let (n, unit) := (grids.find? fun (n, unit) => b.covers (.scaled n 10 unit)).getD (0, 0)
  let digits := Nat.toDigits 10 n
  let kept := (digits.reverse.dropWhile (· == '0')).reverse
  ⟨kept, unit + digits.length - 1⟩

end Binary

end Rulebook
