import Rulebook.Text.Span

/-!
# Parse errors

What is wrong with a formula or a template, and where.

* `ParseError`: the three causes, each with its span and the text found there.
* `ParseError.message`: the error in one line.
* `ParseError.label`: what a report writes at the span.
-/

namespace Rulebook

/-- Why a formula or a template was refused. Each cause carries its span in the text and what
stands there. -/
inductive ParseError where
  /-- A formula that breaks its grammar, with what could have stood there instead. -/
  | formula (span : Span) (found reason : String) (expected : List String)
  /-- A directive that is opened and never closed. -/
  | unterminated (span : Span) (found : String)
  /-- A directive whose body is not one of the known forms. -/
  | directive (span : Span) (found reason : String)
  deriving DecidableEq, Repr

namespace ParseError

/-- The part of the text that the error is about. -/
def span : ParseError → Span
  | formula s .. | unterminated s .. | directive s .. => s

/-- What stands at the span. -/
def found : ParseError → String
  | formula _ f .. | unterminated _ f | directive _ f _ => f

/-- The same error in a text that has `offset` more bytes in front. -/
def shift (offset : Nat) : ParseError → ParseError
  | formula s f r e => formula (s.shift offset) f r e
  | unterminated s f => unterminated (s.shift offset) f
  | directive s f r => directive (s.shift offset) f r

/-- The error in one line. -/
def message : ParseError → String
  | formula s found reason _ => s!"{reason} at {s.start}..{s.stop} ('{found}')"
  | unterminated s _ => s!"unterminated directive at {s.start}"
  | directive s found reason => s!"invalid directive at {s.start}..{s.stop} ('{found}'): {reason}"

/-- What a report writes at the span. -/
def label : ParseError → String
  | formula _ _ reason [] => reason
  | formula _ _ reason expected => reason ++ "\nExpected: " ++ ", ".intercalate expected
  | unterminated _ _ => "no closing '\x7d' for this directive"
  | directive _ _ reason => reason

/-- What could have stood at the span, in the order of the texts. -/
def expected : ParseError → List String
  | formula _ _ _ expected => expected.mergeSort (decide <| · ≤ ·)
  | _ => []

end ParseError

end Rulebook
