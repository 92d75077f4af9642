import Rulebook.Toml.Reader

/-!
# Excerpts

The line of a document that a complaint is about, with the place underlined.

* `placeOf`: the line and the column of a position.
* `excerpt`: the line with its number, and marks under a span.
* `Complaint.span`: the character that a complaint is about.
-/

namespace Rulebook.Toml

/-- The text behind the last line feed. -/
def lastLine (text : List Char) : List Char :=
  (text.reverse.takeWhile (· ≠ '\n')).reverse

/-- The line and the column of a position, both from 0. Columns count the characters before the
position, or the bytes where a character of several bytes stands there. A position behind the text
lies on the line of the last character, even if that is a line feed. -/
def placeOf (source : List Char) (pos : Nat) : Nat × Nat :=
  let size := byteLength source
  if size ≤ pos then
    let before := source.dropLast
    (before.count '\n', (lastLine before).length + (pos - (size - 1)))
  else
    let before := takeBytes pos source
    let line := lastLine before
    let wide := (dropBytes pos source).head?.any (·.utf8Size > 1)
    (before.count '\n', if wide then byteLength line else line.length)

/-- A line of a text, without the line feed. -/
def lineAt : Nat → List Char → List Char
  | 0, text => text.takeWhile (· ≠ '\n')
  | n + 1, text => lineAt n ((text.dropWhile (· ≠ '\n')).drop 1)

/-- The line of a document in which a span starts, with the span underlined up to the end of the
line. -/
def excerpt (source : List Char) (span : Span) : String :=
  let (line, column) := placeOf source span.start
  let content := lineAt line source
  let number := toString (line + 1)
  let gap := "".pushn ' ' (number.length + 1)
  let marks := max 1 (min (span.stop - span.start) (byteLength content - column))
  s!"TOML parse error at line {number}, column {column + 1}\n" ++ s!"{gap}|\n" ++
    s!"{number} | " ++ String.ofList content ++ "\n" ++
    s!"{gap}|" ++ "".pushn ' ' (column + 1) ++ "".pushn '^' marks ++ "\n"

/-- The character that a complaint is about. At the end of the document there is none. -/
def Complaint.span (source : List Char) (e : Complaint) : Span :=
  .ofPiece e.pos ((dropBytes e.pos source).take 1)

end Rulebook.Toml
