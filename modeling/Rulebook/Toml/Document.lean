import Rulebook.Toml.Value

/-!
# Documents

A document is a row of statements: fields, and headers of the tables that the fields below belong
to.

* `Statement`, `statements`: the statements of a document, up to the first place that is wrong.
* `Draft`: the tables so far, and the one that fields go to.
* `Document.parse`: the table that a document is, or the first complaint.
-/

namespace Rulebook.Toml

open Reader

/-- A statement of a document. -/
inductive Statement where
  | field (content : KeyPath × Tree)
  /-- A header. A repeated one is for one more table of the same path. -/
  | header (repeated : Bool) (path : KeyPath) (span : Span)

/-- A header between brackets. -/
def headerOf (repeated : Bool) (opening closing : String) : Reader Statement := do
  let ⟨path, span⟩ ← spanned do
    word opening
    let path ← keyPath.commit
    expecting [.exact ".", .exact closing] (word closing).commit
    return path
  restOfLine.commit
  return .header repeated path span

/-- A header. -/
def header : Reader Statement := label "table header" do
  if (← (exactly 2 fun _ => true).peek) = ['[', '['] then headerOf true "[[" "]]"
  else headerOf false "[" "]"

/-- The statement of a line, if there is one, and the blanks behind. -/
def statement : Reader (Option Statement) := do
  let s ← (do
    match ← next? with
    | none => Reader.miss none
    | some '#' => commit do comment; lineEnd; return none
    | some '[' => some <$> header.commit
    | some '\n' | some '\r' => newline; return none
    | _ => (some <| .field ·) <$> (field (value (depthLimit - 1)) restOfLine).commit)
  blanks
  return s

/-- The statements from a place on, each with its position, and the complaint about the first
place where there is neither a statement nor the end. -/
def statementsFrom : (fuel : Nat) → Cursor → List (Nat × Statement) × Option Complaint
  | 0, _ => ([], none)
  | fuel + 1, c =>
    match statement c with
    | .ok none after => statementsFrom fuel after
    | .ok (some s) after =>
      let (more, complaint) := statementsFrom fuel after
      ((c.pos, s) :: more, complaint)
    | .broken e => ([], some e)
    | .miss _ =>
      match ending c with
      | .ok .. => ([], none)
      | .miss e | .broken e => ([], some e)

/-- The statements of a document. A byte order mark may stand in front of them. -/
def statements (source : List Char) : List (Nat × Statement) × Option Complaint :=
  let start : Reader Unit := do
    let _ ← (char '\ufeff').optional
    blanks
  match start ⟨0, source⟩ with
  | .ok _ c => statementsFrom (source.length + 1) c
  | .miss e | .broken e => ([], some e)

/-- The tables of the statements so far. -/
structure Draft where
  /-- The table of the document. -/
  root : Table := ⟨.block, .explicit, [], none⟩
  /-- The last header: whether it is repeated, and its path. -/
  header : Option (Bool × KeyPath) := none
  /-- The table that fields go to, which the root does not have yet. -/
  current : Table := ⟨.block, .explicit, [], none⟩

namespace Draft

/-- The root with the current table in it. -/
def close (d : Draft) : Except Cause Table := do
  let some (repeated, path) := d.header | return d.current
  let add (parent : Table) : Except Cause (Unit × Table) :=
    match repeated, parent.find? path.last.name with
    | true, some (.tables earlier last) =>
      .ok ((), parent.replace path.last.name (.tables (earlier ++ [last]) d.current))
    | true, _ => .ok ((), parent.push path.last (.tables [] d.current))
    | false, _ => .ok ((), parent.push path.last (.table d.current))
  return (← d.root.modifyAt .implied add [] path.parents).2

/-- A field in the current table, whose text goes on up to the end of it. -/
def addField (d : Draft) (path : KeyPath) (value : Tree) : Except Cause Draft := do
  let home := (d.header.map fun (_, header) => header.keys.map (·.name)).getD []
  let current ← d.current.insert (some home) path value
  let span := (spanFromTo d.current.span value.span?).or d.current.span
  return { d with current := { current with span } }

/-- A new table to which fields go. A table that headers of tables in it have implied may still
get its own header, and keeps what it has. -/
def addHeader (d : Draft) (repeated : Bool) (path : KeyPath) (span : Span) :
    Except Cause Draft := do
  let key := path.last
  let fresh : Table := ⟨.block, .explicit, [], some span⟩
  let enter (parent : Table) : Except Cause (Table × Table) :=
    match repeated, parent.find? key.name with
    | _, none | true, some (.tables ..) => .ok (fresh, parent)
    | repeated, some (.table t) =>
      if !repeated ∧ t.origin = .implied then
        .ok ({ fresh with fields := t.fields }, parent.erase key.name)
      else .error (.duplicateKey (writtenKey key.name) (path.parents.map (·.name)))
    | _, _ => .error (.duplicateKey (writtenKey key.name) (path.parents.map (·.name)))
  let (current, root) ← (← d.close).modifyAt .implied enter [] path.parents
  return { root, header := some (repeated, path), current }

/-- One more statement, which starts at a position. -/
def add (d : Draft) : Nat × Statement → Except Complaint Draft
  | (pos, .field (path, value)) =>
    (d.addField path value).mapError fun cause => { pos, cause := some cause }
  | (pos, .header repeated path span) =>
    (d.addHeader repeated path span).mapError fun cause =>
      { pos, label := some "table header", cause := some cause }

end Draft

/-- The table that a document is. Of two complaints the one
about the earlier statement counts. -/
def parseDocument (source : List Char) : Except Complaint Table := do
  let (statements, complaint) := statements source
  let d ← statements.foldlM Draft.add {}
  if let some e := complaint then throw e
  d.close.mapError fun cause => { pos := byteLength source, cause := some cause }

end Rulebook.Toml
