import Rulebook.Datum.Basic
import Rulebook.Text.Span
import Rulebook.Toml.Reader

/-!
# Trees of a document

What a document says, with the places where it says it.

* `Key`: a name with its span, and `KeyPath`, a row of keys with dots between them.
* `Tree`, `Table`: values, and the tables that they and the whole document are made of.
* `Table.datum`: a table without the places.
* `Table.modifyAt`: the table at a path below a table.
* `Table.insert`: one more field at a path.
-/

namespace Rulebook.Toml

/-- A name and its span. -/
structure Key where
  name : String
  span : Span
  deriving DecidableEq, Repr

/-- Keys with dots between them: the tables on the way and the last name. -/
structure KeyPath where
  parents : List Key
  last : Key
  deriving DecidableEq, Repr

/-- The keys of a path. -/
def KeyPath.keys (p : KeyPath) : List Key := p.parents ++ [p.last]

/-- The path of a first key and further ones. -/
def KeyPath.ofKeys (first : Key) : List Key → KeyPath
  | [] => ⟨[], first⟩
  | next :: more =>
    let path := ofKeys next more
    ⟨first :: path.parents, path.last⟩

/-- How a table is written. -/
inductive Style where
  /-- A field per line, below a header. -/
  | block
  /-- All fields in braces. -/
  | inline
  deriving DecidableEq, Repr

/-- How a table came to be. -/
inductive Origin where
  /-- By a header of its own, or by its braces. -/
  | explicit
  /-- By the header of a table in it. -/
  | implied
  /-- By a path in front of a field. -/
  | dotted
  deriving DecidableEq, Repr

mutual

/-- A value of a document. -/
inductive Tree where
  | scalar (value : Datum) (span : Span)
  | array (items : List Tree) (span : Span)
  | table (t : Table)
  /-- Tables below equal headers in double brackets. -/
  | tables (earlier : List Table) (last : Table)

/-- A table: its fields in order, with different names. -/
structure Table where
  style : Style
  origin : Origin
  fields : List (Key × Tree)
  /-- The text of the table, if it is one piece. -/
  span : Option Span

end

mutual

/-- A value without its places. -/
def Tree.datum : Tree → Datum
  | .scalar value _ => value
  | .array items _ => .list (Tree.data items)
  | .table t => t.datum
  | .tables earlier last => .tables (Table.data earlier ++ [last.datum])

/-- Values without their places. -/
def Tree.data : List Tree → List Datum
  | [] => []
  | t :: ts => t.datum :: Tree.data ts

/-- A table without its places. -/
def Table.datum : Table → Datum
  | ⟨_, _, fields, _⟩ => .map (Table.fieldData fields)

/-- Fields without their places. -/
def Table.fieldData : List (Key × Tree) → List (String × Datum)
  | [] => []
  | (k, t) :: fields => (k.name, t.datum) :: Table.fieldData fields

/-- Tables without their places. -/
def Table.data : List Table → List Datum
  | [] => []
  | t :: ts => t.datum :: Table.data ts

end

/-- The text from the start of one span to the end of another. -/
def spanFromTo : Option Span → Option Span → Option Span
  | some first, some last => some ⟨first.start, last.stop⟩
  | _, _ => none

/-- The text of a value, if it is one piece. -/
def Tree.span? : Tree → Option Span
  | scalar _ span | array _ span => some span
  | table t => t.span
  | tables earlier last => spanFromTo ((earlier.head?.getD last).span) last.span

/-- What a value is, in messages. -/
def Tree.shape : Tree → String
  | scalar (.bool _) _ => "boolean"
  | scalar (.int _) _ => "integer"
  | scalar (.float _) _ => "float"
  | scalar (.date _) _ => "datetime"
  | scalar _ _ => "string"
  | array _ _ => "array"
  | table ⟨.inline, _, _, _⟩ => "inline table"
  | table _ => "table"
  | tables _ _ => "array of tables"

namespace Table

/-- The value of a name. -/
def find? (t : Table) (name : String) : Option Tree :=
  (t.fields.find? (·.1.name = name)).map (·.2)

/-- One more field behind the others. -/
def push (t : Table) (key : Key) (value : Tree) : Table :=
  { t with fields := t.fields ++ [(key, value)] }

/-- Another value for a name that is there. -/
def replace (t : Table) (name : String) (value : Tree) : Table :=
  { t with fields := t.fields.map fun (k, v) => if k.name = name then (k, value) else (k, v) }

/-- The table without the field of a name. -/
def erase (t : Table) (name : String) : Table :=
  { t with fields := t.fields.filter (·.1.name ≠ name) }

/-- Changes the table at a path below a table, and makes the tables on the way that are missing.
`origin` is the one of tables that are made, and `seen` the way so far. A path in front of a field
does not lead into tables that have a header. -/
def modifyAt {α : Type} (origin : Origin) (f : Table → Except Cause (α × Table))
    (seen : List String) : List Key → Table → Except Cause (α × Table)
  | [], t => f t
  | key :: path, t => do
    let seen := seen ++ [key.name]
    match t.find? key.name with
    | none =>
      let (a, child) ← modifyAt origin f seen path ⟨t.style, origin, [], none⟩
      return (a, t.push key (.table child))
    | some (.table child) =>
      if child.style ≠ t.style then throw (.notTable seen (Tree.table child).shape)
      if origin = .dotted ∧ child.origin = .explicit then throw (.duplicateKey key.name none)
      let (a, child) ← modifyAt origin f seen path child
      return (a, t.replace key.name (.table child))
    | some (.tables earlier last) =>
      let (a, last) ← modifyAt origin f seen path last
      return (a, t.replace key.name (.tables earlier last))
    | some value => throw (.notTable seen value.shape)

/-- One more field at a path. A table is written either by paths or below its header, and `home`
is the path of that header for the message about a name that is there already. -/
def insert (t : Table) (home : Option (List String)) (path : KeyPath) (value : Tree) :
    Except Cause Table := do
  let add (inner : Table) : Except Cause (Unit × Table) := do
    if inner.origin = .dotted ↔ path.parents = [] then
      throw (.duplicateKey path.last.name none)
    if (inner.find? path.last.name).isSome then
      throw (.duplicateKey path.last.name home)
    return ((), inner.push path.last value)
  return (← t.modifyAt .dotted add [] path.parents).2

end Table

end Rulebook.Toml
