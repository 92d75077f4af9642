import Rulebook.ParseError
import Rulebook.Text.Span

/-!
# Segments of a template

A template text is cut into literal runs and directives. A directive starts at `%{` and ends at
the first `}` behind it, so directives do not nest.

* `Segment`: a literal run, or the body of a directive.
* `Segment.text`: a segment as it stands in the text.
* `Segment.scan`: the segments of a text. They tile it: their texts in a row are the text.
-/

namespace Rulebook.Template

/-- A piece of a template text. -/
inductive Segment where
  | literal (run : List Char)
  | directive (body : List Char)
  deriving DecidableEq, Repr

/-- A segment as it stands in the text. -/
def Segment.text : Segment → List Char
  | literal run => run
  | directive body => '%' :: '{' :: body ++ ['}']

/-- The text before the first directive, and the text behind its opening `%{` if there is one. -/
def splitOpen : List Char → List Char × Option (List Char)
  | [] => ([], none)
  | '%' :: '{' :: cs => ([], some cs)
  | c :: cs => let (run, rest) := splitOpen cs; (c :: run, rest)

/-- The text before the first `}`, and the text behind it if there is one. -/
def splitClose : List Char → List Char × Option (List Char)
  | [] => ([], none)
  | '}' :: cs => ([], some cs)
  | c :: cs => let (body, rest) := splitClose cs; (c :: body, rest)

theorem splitOpen_rest {cs run rest : List Char} (h : splitOpen cs = (run, some rest)) :
    cs = run ++ '%' :: '{' :: rest := by
  fun_induction splitOpen cs generalizing run with
  | case1 => simp at h
  | case2 cs => simp only [Prod.mk.injEq, Option.some.injEq] at h; simp [← h.1, h.2]
  | case3 c cs _ run' rest' he ih =>
    simp only [Prod.mk.injEq] at h
    obtain ⟨rfl, rfl⟩ := h
    simp [ih he]

theorem splitClose_rest {cs body rest : List Char} (h : splitClose cs = (body, some rest)) :
    cs = body ++ '}' :: rest := by
  fun_induction splitClose cs generalizing body with
  | case1 => simp at h
  | case2 cs => simp only [Prod.mk.injEq, Option.some.injEq] at h; simp [← h.1, h.2]
  | case3 c cs _ body' rest' he ih =>
    simp only [Prod.mk.injEq] at h
    obtain ⟨rfl, rfl⟩ := h
    simp [ih he]

/-- A literal run in front of some segments. An empty one is left out. -/
def Segment.consLiteral (run : List Char) (segments : List Segment) : List Segment :=
  if run.isEmpty then segments else literal run :: segments

/-- The segments of a text that starts at a position. -/
def Segment.scanFrom (pos : Nat) (text : List Char) : Except ParseError (List Segment) :=
  match _hOpen : splitOpen text with
  | (run, none) => .ok (consLiteral run [])
  | (run, some inside) =>
    let start := pos + byteLength run
    match _hClose : splitClose inside with
    | (_, none) =>
      let opened := '%' :: '{' :: inside
      .error (.unterminated (.ofPiece start opened) (String.ofList opened))
    | (body, some rest) => do
      let segments ← scanFrom (start + byteLength (Segment.directive body).text) rest
      return consLiteral run (directive body :: segments)
termination_by text.length
decreasing_by
  rw [splitOpen_rest _hOpen, splitClose_rest _hClose]
  simp only [List.length_append, List.length_cons]
  omega

/-- The segments of a text, or the first directive that is not closed. -/
def Segment.scan (text : List Char) : Except ParseError (List Segment) := scanFrom 0 text

end Rulebook.Template
