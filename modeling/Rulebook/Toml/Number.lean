import Rulebook.Decimal.Reading
import Rulebook.Toml.Quote

/-!
# Numbers of a document

* `integer`: whole numbers of 64 bits, decimal or with another base.
* `float`: numbers with decimals or an exponent, infinities and numbers that are none.
-/

namespace Rulebook.Toml

open Reader

/-- Digits behind a first one. An underscore may stand between two digits. -/
def moreDigits (isDigit : Char → Bool) : Reader (List Char) :=
  (oneOf isDigit <|>
    (do let _ ← char '_'; expecting [.noun "digit"] (oneOf isDigit).commit)).many

/-- Digits. An underscore may stand between two of them. -/
def digits (isDigit : Char → Bool) : Reader (List Char) :=
  do return (← oneOf isDigit) :: (← moreDigits isDigit)

/-- A sign, if there is one: whether it is a minus. -/
def sign : Reader Bool := do
  return (← (oneOf fun c => c == '+' || c == '-').optional) == some '-'

/-- A decimal whole number: whether it has a minus, and its digits. The first of several digits is
not a zero. -/
def decimal : Reader (Bool × List Char) := label "integer" do
  let minus ← sign
  let ds ← (do return (← oneOf fun c => c.isDigit && c != '0') :: (← moreDigits Char.isDigit)) <|>
    (do return [← oneOf Char.isDigit])
  return (minus, ds)

/-- The whole number, if it fits in 64 bits with its sign. -/
def word64 (n : Int) : Except (Option Cause) Int :=
  if n > Int64.maxValue.toInt then .error (some .tooLarge)
  else if n < Int64.minValue.toInt then .error (some .tooSmall)
  else .ok n

/-- A whole number in another base. -/
def basedInteger (name mark : String) (base : Nat) (isDigit : Char → Bool) : Reader Int :=
  commit <| Reader.check
    (label name do
      word mark
      (digits isDigit).commit)
    fun ds => word64 (digitsValue base ds)

/-- A whole number. -/
def integer : Reader Int := do
  match ← (exactly 2 fun _ => true).peek.optional with
  | some ['0', 'x'] => basedInteger "hexadecimal integer" "0x" 16 isHexDigit
  | some ['0', 'o'] => basedInteger "octal integer" "0o" 8 fun c => '0' ≤ c && c ≤ '7'
  | some ['0', 'b'] => basedInteger "binary integer" "0b" 2 fun c => c == '0' || c == '1'
  | _ =>
    decimal.ensure fun (minus, ds) =>
      let n : Int := digitsValue 10 ds
      word64 (if minus then -n else n)

/-- The decimals of a number. -/
def decimals : Reader (List Char) := do
  let _ ← char '.'
  expecting [.noun "digit"] (digits Char.isDigit).commit

/-- The power of ten behind a number. -/
def exponent : Reader Int := do
  let _ ← oneOf fun c => c == 'e' || c == 'E'
  let minus ← sign
  let n : Int := digitsValue 10 (← (digits Char.isDigit).commit)
  return if minus then -n else n

/-- A number with decimals or an exponent. -/
def decimalFloat : Reader Float := do
  let (minus, whole) ← decimal
  let (rest, power) ← (do return ([], ← exponent)) <|>
    (do return (← decimals, (← exponent.optional).getD 0))
  let size := nearestFloat (digitsValue 10 (whole ++ rest)) (power - rest.length)
  return if minus then -size else size

/-- The infinite number. -/
def infinite : Reader Float := do word "inf"; return 1.0 / 0.0

/-- The number that is none. -/
def notANumber : Reader Float := do word "nan"; return 0.0 / 0.0

/-- A number that has a name. -/
def namedFloat : Reader Float := do
  let minus ← sign
  let x ← infinite <|> notANumber
  return if minus then -x else x

/-- A floating-point number. One that is too large for a number is refused. -/
def float : Reader Float := label "floating-point number" <|
  (decimalFloat.ensure fun x => if x == 1.0 / 0.0 then .error none else .ok x) <|> namedFloat

end Rulebook.Toml
