import Rulebook.Template.Directive
import Rulebook.Template.Normalize
import Rulebook.Template.Segment

/-!
# Templates

A template is a text with directives in it. Positions in it refer to the normal form of the text.

* `Template`: the text in normal form and its nodes with their spans.
* `Template.parse`: the template of a text. One malformed directive refuses the whole text.
* `Template.references`, `Template.formulas`: the directives of a template, in order.
-/

namespace Rulebook

/-- A text and the nodes that it is made of. -/
structure Template where
  text : String
  nodes : List (Spanned Template.Node)
  deriving DecidableEq, Repr

namespace Template

/-- The node of a segment at a position. -/
def Node.ofSegment (pos : Nat) : Segment → Except ParseError Node
  | .literal run => .ok (.literal (String.ofList run))
  | .directive body => Node.ofBody pos body

/-- The nodes of segments in a row, the first of them at a position. -/
def readNodes (pos : Nat) : List Segment → Except ParseError (List (Spanned Node))
  | [] => .ok []
  | s :: segments => do
    let node ← Node.ofSegment pos s
    let nodes ← readNodes (pos + byteLength s.text) segments
    return ⟨node, .ofPiece pos s.text⟩ :: nodes

/-- The nodes of a text in normal form. -/
def nodesOf (text : List Char) : Except ParseError (List (Spanned Node)) := do
  let segments ← Segment.scan text
  readNodes 0 segments

/-- The template of a text. -/
def parse (raw : String) : Except ParseError Template := do
  let text := normalizeChars raw.toList
  let nodes ← nodesOf text
  return ⟨String.ofList text, nodes⟩

/-- The reference directives of a template, in order. -/
def references (t : Template) : List RefDirective := t.nodes.filterMap (·.value.ref?)

/-- The formulas of a template, in order. -/
def formulas (t : Template) : List Formula := t.nodes.filterMap (·.value.formula?)

end Template

end Rulebook
