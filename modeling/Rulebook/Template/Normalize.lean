import Rulebook.Text.Blank
import Rulebook.Text.Lines

/-!
# Normal form of a template text

A template may be written as an indented block. Its normal form drops the blank lines around it, and
the same number of leading spaces and tabs from each of its lines: as many as the line with the fewest
has.

* `indentation`: how many spaces and tabs a line starts with.
* `normalizeLines`, `normalize`: the normal form of lines and of a text.
-/

namespace Rulebook.Template

/-- The number of spaces and tabs that a line starts with. -/
def indentation (line : List Char) : Nat := (line.takeWhile fun c => c == ' ' || c == '\t').length

/-- The lines without the blank ones at both ends. -/
def trimLines (ls : List (List Char)) : List (List Char) :=
  ((ls.dropWhile isBlankText).reverse.dropWhile isBlankText).reverse

/-- The smallest indentation of the lines that are not blank, 0 if all of them are. -/
def commonIndentation (ls : List (List Char)) : Nat :=
  (((ls.filter (!isBlankText ·)).map indentation).min?).getD 0

/-- Lines in normal form: the same number of characters is taken from the start of every line, and
nothing stays of a blank one. -/
def normalizeLines (ls : List (List Char)) : List (List Char) :=
  let body := trimLines ls
  let n := commonIndentation body
  body.map fun l => if isBlankText l then [] else l.drop n

/-- A list of characters in normal form. -/
def normalizeChars (raw : List Char) : List Char := joinLines (normalizeLines (lines raw))

/-- A text in normal form. -/
def normalize (raw : String) : String := String.ofList (normalizeChars raw.toList)

end Rulebook.Template
