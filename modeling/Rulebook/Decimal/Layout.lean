import Rulebook.Decimal.Shortest

/-!
# Layout of floating-point numbers

* `Layout`: the powers of ten between which a number is written without an exponent, and what
  becomes of ties.
* `Layout.text`: a number with the fewest digits that read back, in a layout. A number without
  decimals gets `.0`, or an exponent.
-/

namespace Rulebook

/-- How numbers are written. -/
structure Layout where
  /-- From which to which power of ten, for the first digit, a number is written without an
  exponent; no bounds mean that it never has one. -/
  positional : Option (Int × Int)
  /-- Which of two decimals stands for a number half way between them. -/
  tie : Tie
  deriving DecidableEq, Repr

namespace Layout

/-- No number has an exponent, and a tie goes up. -/
def plain : Layout := ⟨none, .up⟩

/-- Very large and very small numbers have an exponent, and a tie goes to the even digit. -/
def compact : Layout := ⟨some (-5, 15), .toEven⟩

/-- Digits with the decimal point behind the one that counts ones. -/
def positionalText (d : Decimal) : List Char :=
  if d.exponent < 0 then
    ['0', '.'] ++ List.replicate (d.exponent.natAbs - 1) '0' ++ d.digits
  else
    let n := d.exponent.natAbs + 1
    let whole := d.digits.take n ++ List.replicate (n - d.digits.length) '0'
    let rest := d.digits.drop n
    whole ++ '.' :: if rest.isEmpty then ['0'] else rest

/-- Digits with the decimal point behind the first one, and the exponent with its sign. -/
def exponentText (d : Decimal) : List Char :=
  let mantissa :=
    match d.digits with
    | [] => []
    | [c] => [c]
    | c :: cs => c :: '.' :: cs
  mantissa ++ 'e' :: (if d.exponent < 0 then '-' else '+') :: Nat.toDigits 10 d.exponent.natAbs

/-- The text of a positive number. -/
def decimalText (l : Layout) (d : Decimal) : List Char :=
  match l.positional with
  | none => positionalText d
  | some (low, high) =>
    if low ≤ d.exponent && d.exponent ≤ high then positionalText d else exponentText d

/-- The text of a number in a layout. -/
def text (l : Layout) (x : Float) : String :=
  if x.isNaN then "NaN"
  else
    let sign := if x.toBits ≥ 0x8000000000000000 then "-" else ""
    let size :=
      if x.isInf then "inf"
      else if x == 0.0 then "0.0"
      else String.ofList (l.decimalText ((Binary.ofFloat x).shortest l.tie))
    sign ++ size

end Layout

end Rulebook
