import Rulebook.ParseError
import Rulebook.Text.Blank
import Rulebook.Text.Lines

/-!
# Reports

A parse error drawn under the line of source that it is about, in colour. The source is plain
text of one-column characters and tabs.

* `Colour`, `paint`: coloured pieces.
* `SourceLine`: a line of the source with its number and its position.
* `ParseError.report`: the drawing.
-/

namespace Rulebook

namespace Report

/-- The colours of a report, as terminal codes. -/
inductive Colour where
  | red
  /-- The frame. -/
  | margin
  /-- The frame next to lines that are not source. -/
  | skippedMargin
  /-- Source outside the span. -/
  | unimportant

/-- The terminal code of a colour. -/
def Colour.code : Colour → String
  | red => "31"
  | margin => "38;5;246"
  | skippedMargin => "38;5;240"
  | unimportant => "38;5;249"

/-- A coloured piece. -/
def paint (c : Colour) (text : String) : String := s!"\x1b[{c.code}m{text}\x1b[0m"

/-- A text of `n` equal pieces. -/
def repeated (n : Nat) (piece : String) : String := String.join (List.replicate n piece)

/-- The characters that end a line of source. -/
def isLineEnd (c : Char) : Bool :=
  let n := c.toNat
  (0x0a ≤ n && n ≤ 0x0d) || n == 0x85 || n == 0x2028 || n == 0x2029

/-- The lines of a source, each with the characters that end it. -/
def splitSource : List Char → List (List Char)
  | [] => []
  | '\r' :: '\n' :: cs => ['\r', '\n'] :: splitSource cs
  | c :: cs => if isLineEnd c then [c] :: splitSource cs else extendFirst c (splitSource cs)

/-- A line of source, its number and the position of its first character. -/
structure SourceLine where
  number : Nat
  offset : Nat
  text : List Char

/-- Lines with their numbers and positions. -/
def numberLines (number offset : Nat) : List (List Char) → List SourceLine
  | [] => []
  | l :: ls => ⟨number, offset, l⟩ :: numberLines (number + 1) (offset + l.length) ls

/-- The line of a source that a position is in: the last that does not start behind it. -/
def lineAt? (source : List Char) (pos : Nat) : Option SourceLine :=
  ((numberLines 1 0 (splitSource source)).filter (·.offset ≤ pos)).getLast?

/-- A character in the column `col`, as it is drawn: a tab fills up to a multiple of four. -/
def drawn (col : Nat) (c : Char) : String × Nat :=
  if c == '\t' then (" ", 4 - col % 4) else (c.toString, 1)

/-- The columns that a character of the line takes. Columns behind the line are one wide. -/
def widthAt (text : List Char) (col : Nat) : Nat :=
  match text[col]? with
  | some c => (drawn col c).2
  | none => 1

variable (line : SourceLine) (span : Span)

/-- The column of the line that the label hangs at. -/
def labelColumn : Nat := (span.start + span.stop) / 2 - line.offset

/-- Whether a column of the line is in the span. -/
def inSpan (col : Nat) : Bool :=
  let pos := line.offset + col
  span.start ≤ pos && pos < span.stop

/-- The line without the blanks at its end, every character in its colour. -/
def drawSource : String :=
  String.join <| (trimEnd line.text).zipIdx.map fun (c, col) =>
    let (piece, n) := drawn col c
    repeated n (paint (if inSpan line span col then .red else .unimportant) piece)

/-- The number of columns under the line that are drawn. -/
def arrowLength : Nat := span.stop - line.offset + 2

/-- The underline, with the start of the arrow to the label. -/
def drawUnderline : String :=
  String.join <| (List.range (arrowLength line span)).map fun col =>
    let under := inSpan line span col
    let here := col == labelColumn line span
    let head :=
      if here then paint .red (if under then "┬" else "│")
      else if under then paint .red "─" else " "
    let tail := if under then paint .red "─" else if here then paint .red " " else " "
    head ++ repeated (widthAt (trimEnd line.text) col - 1) tail

/-- The arrow to the label. -/
def drawArrow : String :=
  String.join <| (List.range (arrowLength line span)).map fun col =>
    let tail := widthAt (trimEnd line.text) col - 1
    if col < labelColumn line span then repeated (tail + 1) " "
    else
      (if col == labelColumn line span then paint .red "╰" else paint .red "─") ++
        repeated tail (paint .red "─")

/-- The frame around a line of source, with its underline and the label below. -/
def draw (name label : String) : List String :=
  let number := toString line.number
  let gap := repeated (number.length + 1) " "
  let place := s!"{name}:{line.number}:{span.start - line.offset + 1}"
  let skipped := " " ++ paint .skippedMargin (gap ++ "│") ++ " "
  [gap ++ " " ++ paint .margin "╭" ++ paint .margin "─" ++ paint .margin "[" ++ place ++
      paint .margin "]",
    gap ++ " " ++ paint .margin "│"] ++
  (if span.stop ≤ line.offset + line.text.length then
    [" " ++ paint .margin (number ++ " │") ++ " " ++ drawSource line span,
      skipped ++ drawUnderline line span,
      skipped ++ drawArrow line span ++ " " ++ label]
  else [skipped]) ++
  [paint .margin (repeated (number.length + 2) "─" ++ "╯")]

end Report

/-- The error drawn under its line of the source, which is called `name`. Only the message is
left of it where the span does not start in the source. -/
def ParseError.report (e : ParseError) (source name : String) : String :=
  let chars := source.toList
  let span := e.span
  let head := Report.paint .red "Error:" ++ " " ++ e.message
  let inside := span.start ≤ chars.length && span.stop - 1 ≤ chars.length
  let body :=
    match Report.lineAt? chars span.start with
    | some line => if inside then Report.draw line span name e.label else []
    | none => []
  String.join ((head :: body).map (· ++ "\n"))

end Rulebook
