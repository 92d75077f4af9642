import Rulebook.Toml.Reader

/-!
# Blanks, comments and line ends of a document

* `blanks`, `newline`, `comment`: the pieces.
* `lineEnd`, `restOfLine`: what may follow the last word of a line.
* `gap`: blanks, comments and line ends between the items of an array.
-/

namespace Rulebook.Toml

/-- The blanks inside a line. -/
def isBlank (c : Char) : Bool := c == ' ' || c == '\t'

/-- The characters that stand for themselves in texts and comments: all but control characters,
of which a tab is allowed. -/
def isPlain (c : Char) : Bool := c == '\t' || (' ' ≤ c && c != '\x7f')

/-- Blanks, if there are any. -/
def blanks : Reader Unit := do let _ ← charsOf isBlank

/-- A line feed, with or without a carriage return before it. The complaint about another character
is about the place behind it. -/
def newline : Reader Unit := do
  match ← oneOf fun _ => true with
  | '\n' => return ()
  | '\r' => let _ ← char '\n'
  | _ => Reader.miss none

/-- A comment up to the end of its line. -/
def comment : Reader Unit := do
  let _ ← char '#'
  let _ ← charsOf isPlain

/-- The end of a line or of the document. -/
def lineEnd : Reader Unit := newline <|> ending

/-- What may stand behind the last word of a line. -/
def restOfLine : Reader Unit :=
  Reader.expecting [.newline, .exact "#"] do
    blanks
    let _ ← comment.optional
    lineEnd

/-- A comment or a line end between items, if there is one. A comment has to end its line. -/
def gapPart : Reader Bool := do
  match ← next? with
  | some '#' => comment; newline; return true
  | some '\n' | some '\r' => newline; return true
  | _ => return false

/-- Blanks, comments and line ends, at most `fuel` lines of them. -/
def gapUpTo : (fuel : Nat) → Reader Unit
  | 0 => blanks
  | fuel + 1 => do
    blanks
    if ← gapPart then gapUpTo fuel

/-- Blanks, comments and line ends between the items of an array. -/
def gap : Reader Unit := fun c => gapUpTo c.rest.length c

end Rulebook.Toml
