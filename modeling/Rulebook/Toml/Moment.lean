import Rulebook.Toml.Number

/-!
# Dates and times of a document

* `Date`, `Time`, `Offset`, `Moment`: days, times of day, time zones, and what is made of them.
* `Moment.text`: the text of a moment.
* `moment`: the reader.
-/

namespace Rulebook.Toml

open Reader

/-- A day. -/
structure Date where
  year : Nat
  month : Nat
  day : Nat
  deriving DecidableEq, Repr

/-- A time of day, with at most nine decimals of its seconds. -/
structure Time where
  hour : Nat
  minute : Nat
  second : Nat
  decimals : List Char
  deriving DecidableEq, Repr

/-- How far a time is ahead of universal time. -/
inductive Offset where
  | universal
  | ahead (minutes : Int)
  deriving DecidableEq, Repr

/-- A day, a time of day, or both. -/
inductive Moment where
  | date (d : Date)
  | time (t : Time)
  | both (d : Date) (t : Time) (offset : Option Offset)
  deriving DecidableEq, Repr

/-- A number with zeros in front up to a width. -/
def padded (width n : Nat) : String := String.ofList ((Nat.toDigits 10 n).leftpad width '0')

/-- A day as it is written. -/
def Date.text (d : Date) : String := s!"{padded 4 d.year}-{padded 2 d.month}-{padded 2 d.day}"

/-- A time of day as it is written, without zeros at the end of its decimals. -/
def Time.text (t : Time) : String :=
  let decimals := (t.decimals.reverse.dropWhile (· == '0')).reverse
  s!"{padded 2 t.hour}:{padded 2 t.minute}:{padded 2 t.second}" ++
    if decimals.isEmpty then "" else String.ofList ('.' :: decimals)

/-- An offset as it is written. -/
def Offset.text : Offset → String
  | universal => "Z"
  | ahead minutes =>
    let n := minutes.natAbs
    (if minutes < 0 then "-" else "+") ++ s!"{padded 2 (n / 60)}:{padded 2 (n % 60)}"

/-- A moment as it is written. -/
def Moment.text : Moment → String
  | date d => d.text
  | time t => t.text
  | both d t offset => d.text ++ "T" ++ t.text ++ (offset.map Offset.text).getD ""

/-- The number of days of a month. -/
def daysIn (year month : Nat) : Nat :=
  if month = 2 then
    if year % 4 = 0 && (year % 100 ≠ 0 || year % 400 = 0) then 29 else 28
  else if month = 4 || month = 6 || month = 9 || month = 11 then 30
  else 31

/-- A number of two digits from `low` to `high`. -/
def twoDigits (low high : Nat) : Reader Nat :=
  (exactly 2 Char.isDigit).check fun ds =>
    let n := digitsValue 10 ds
    if low ≤ n && n ≤ high then .ok n else .error (some .outOfRange)

/-- A day. -/
def date : Reader Date := do
  let year := digitsValue 10 (← exactly 4 Char.isDigit)
  let _ ← char '-'
  let month ← (twoDigits 1 12).commit
  let _ ← (char '-').commit
  let last := daysIn year month
  let day ← commit <| (twoDigits 1 31).check fun day =>
    if day ≤ last then .ok day else .error (some .outOfRange)
  return { year, month, day }

/-- The decimals of a second. From the tenth on they do not count. -/
def secondDecimals : Reader (List Char) := do
  let _ ← char '.'
  return (← someOf Char.isDigit).take 9

/-- A time of day. -/
def time : Reader Time := do
  let hour ← twoDigits 0 23
  let _ ← char ':'
  commit do
    let minute ← twoDigits 0 59
    let _ ← char ':'
    let second ← twoDigits 0 60
    let decimals := (← secondDecimals.optional).getD []
    return { hour, minute, second, decimals }

/-- A time zone. -/
def offset : Reader Offset := label "time offset" <|
  (do let _ ← oneOf fun c => c == 'Z' || c == 'z'; return .universal) <|> do
    let sign ← oneOf fun c => c == '+' || c == '-'
    commit do
      let hours ← twoDigits 0 23
      let _ ← char ':'
      let minutes ← twoDigits 0 59
      let n : Int := hours * 60 + minutes
      return .ahead (if sign == '-' then -n else n)

/-- The time of day and the time zone that may follow a day. -/
def clock : Reader (Time × Option Offset) := do
  let _ ← oneOf fun c => c == 'T' || c == 't' || c == ' '
  return (← time, ← offset.optional)

/-- A moment. -/
def moment : Reader Moment :=
  (label "date-time" do
    let d ← date
    match ← clock.optional with
    | some (t, offset) => return .both d t offset
    | none => return .date d) <|>
  label "time" (.time <$> time)

end Rulebook.Toml
