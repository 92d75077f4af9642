import Rulebook.Text.Span

/-!
# Readers

A reader reads a piece from the start of a text. When it cannot, it says where it stopped and what
was wrong there, and whether another reader may still fit at the same place.

* `Complaint`: what is wrong with a document, and where; `Complaint.message` in words.
* `Reader`: the type of readers. A miss leaves the choice open, a break ends it.
* `commit`, `label`, `expecting`, `check`, `ensure`: readers with other complaints.
* `optional`, `many`, `separated1`, `peek`: readers made of others.
-/

namespace Rulebook.Toml

/-- What could have stood at a place. -/
inductive Expected where
  | exact (text : String)
  | newline
  | noun (name : String)
  deriving DecidableEq, Repr

/-- An expectation as it is named in messages. -/
def Expected.describe : Expected → String
  | exact text => s!"`{text}`"
  | newline => "newline"
  | noun name => name

/-- Why a text that has the right form is refused. -/
inductive Cause where
  /-- A key that is there already. The table is known by its path. -/
  | duplicateKey (key : String) (table : Option (List String))
  /-- A path through a value that has no fields. -/
  | notTable (path : List String) (shape : String)
  | outOfRange
  | tooDeep
  | tooLarge
  | tooSmall
  deriving DecidableEq, Repr

/-- The cause in one line. -/
def Cause.message : Cause → String
  | duplicateKey key none => s!"duplicate key `{key}`"
  | duplicateKey key (some []) => s!"duplicate key `{key}` in document root"
  | duplicateKey key (some table) =>
    let path := ".".intercalate table
    s!"duplicate key `{key}` in table `{path}`"
  | notTable keys shape =>
    let path := ".".intercalate keys
    s!"dotted key `{path}` attempted to extend non-table type ({shape})"
  | outOfRange => "value is out of range"
  | tooDeep => "recursion limit exceeded"
  | tooLarge => "number too large to fit in target type"
  | tooSmall => "number too small to fit in target type"

/-- What is wrong with a document, and where. -/
structure Complaint where
  pos : Nat
  /-- What was being read. -/
  label : Option String := none
  expected : List Expected := []
  cause : Option Cause := none
  deriving DecidableEq, Repr

/-- The complaint in words, without its place. -/
def Complaint.message (e : Complaint) : String :=
  let expected :=
    if e.expected.isEmpty then []
    else ["expected " ++ ", ".intercalate (e.expected.map Expected.describe)]
  "\n".intercalate <|
    e.label.toList.map ("invalid " ++ ·) ++ expected ++ e.cause.toList.map Cause.message

/-- A place in a text: its position, and the text from there on. -/
structure Cursor where
  pos : Nat
  rest : List Char
  deriving DecidableEq, Repr

/-- How far a reader got. -/
inductive Outcome (α : Type) where
  | ok (value : α) (after : Cursor)
  /-- Another reader may still fit. -/
  | miss (e : Complaint)
  /-- Nothing else can fit. -/
  | broken (e : Complaint)

/-- From a place in a text to a value and a later place. -/
def Reader (α : Type) : Type := Cursor → Outcome α

namespace Reader

variable {α β : Type}

instance : Monad Reader where
  pure a := fun c => .ok a c
  bind r f := fun c =>
    match r c with
    | .ok a c => f a c
    | .miss e => .miss e
    | .broken e => .broken e

/-- The second reader reads where the first one misses. -/
def orElse (first second : Reader α) : Reader α := fun c =>
  match first c with
  | .miss _ => second c
  | outcome => outcome

instance : OrElse (Reader α) := ⟨fun first second => first.orElse (second ())⟩

/-- A reader that fits nowhere. -/
def miss (cause : Option Cause) : Reader α := fun c => .miss { pos := c.pos, cause }

/-- After a miss of this reader, nothing else can fit. -/
def commit (r : Reader α) : Reader α := fun c =>
  match r c with
  | .miss e => .broken e
  | outcome => outcome

/-- A reader whose complaints are changed. -/
def mapComplaint (f : Complaint → Complaint) (r : Reader α) : Reader α := fun c =>
  match r c with
  | .ok a c => .ok a c
  | .miss e => .miss (f e)
  | .broken e => .broken (f e)

/-- A reader with a name for what it reads. The name of a part is the better one. -/
def label (name : String) : Reader α → Reader α :=
  mapComplaint fun e => { e with label := e.label.or (some name) }

/-- A reader with more that could have stood where it stopped. -/
def expecting (expected : List Expected) : Reader α → Reader α :=
  mapComplaint fun e => { e with expected := e.expected ++ expected }

/-- A reader whose values have to pass a check. Where they do not, it misses at its start. -/
def check (r : Reader α) (f : α → Except (Option Cause) β) : Reader β := fun c =>
  match r c with
  | .ok a after =>
    match f a with
    | .ok b => .ok b after
    | .error cause => miss cause c
  | .miss e => .miss e
  | .broken e => .broken e

/-- A reader whose values have to pass a check. Where they do not, nothing else can fit. -/
def ensure (r : Reader α) (f : α → Except (Option Cause) β) : Reader β := fun c =>
  match r c with
  | .ok a after =>
    match f a with
    | .ok b => .ok b after
    | .error cause => (miss cause).commit c
  | .miss e => .miss e
  | .broken e => .broken e

/-- A value, if there is one. -/
def optional (r : Reader α) : Reader (Option α) := fun c =>
  match r c with
  | .ok a after => .ok (some a) after
  | .miss _ => .ok none c
  | .broken e => .broken e

/-- What a reader would read. Nothing is read, and complaints are about the start. -/
def peek (r : Reader α) : Reader α := fun c =>
  match r c with
  | .ok a _ => .ok a c
  | .miss e => .miss { e with pos := c.pos }
  | .broken e => .broken { e with pos := c.pos }

/-- Values in a row, at most `fuel` many. -/
def upTo (r : Reader α) : (fuel : Nat) → Reader (List α)
  | 0 => pure []
  | fuel + 1 => fun c =>
    match r c with
    | .ok a after =>
      match upTo r fuel after with
      | .ok as last => .ok (a :: as) last
      | .miss e => .miss e
      | .broken e => .broken e
    | .miss _ => .ok [] c
    | .broken e => .broken e

/-- Values in a row, for a reader that never reads an empty piece. -/
def many (r : Reader α) : Reader (List α) := fun c => r.upTo (c.rest.length + 1) c

/-- One value or more in a row. -/
def many1 (r : Reader α) : Reader (List α) := do return (← r) :: (← r.many)

/-- One value, and further ones behind separators. A separator without a value behind it is left
for others. -/
def separated1 (r : Reader α) (separator : Reader β) : Reader (α × List α) := do
  return (← r, ← (do let _ ← separator; r).many)

/-- Values with separators between them. -/
def separated (r : Reader α) (separator : Reader β) : Reader (List α) := do
  match ← (r.separated1 separator).optional with
  | some (a, as) => return a :: as
  | none => return []

/-- A value with the span that it was read from. -/
def spanned (r : Reader α) : Reader (Spanned α) := fun c =>
  match r c with
  | .ok a after => .ok ⟨a, ⟨c.pos, after.pos⟩⟩ after
  | .miss e => .miss e
  | .broken e => .broken e

end Reader

/-- The next character, which is not read. -/
def next? : Reader (Option Char) := fun c => .ok c.rest.head? c

/-- A character of a class. -/
def oneOf (p : Char → Bool) : Reader Char := fun c =>
  match c.rest with
  | x :: rest => if p x then .ok x ⟨c.pos + x.utf8Size, rest⟩ else Reader.miss none c
  | [] => Reader.miss none c

/-- A certain character. -/
def char (x : Char) : Reader Char := oneOf (· == x)

/-- The characters of a class that the text goes on with. -/
def charsOf (p : Char → Bool) : Reader (List Char) := fun c =>
  let piece := c.rest.takeWhile p
  .ok piece ⟨c.pos + byteLength piece, c.rest.dropWhile p⟩

/-- The characters of a class that the text goes on with, at least one. -/
def someOf (p : Char → Bool) : Reader (List Char) :=
  (charsOf p).check fun piece => if piece.isEmpty then .error none else .ok piece

/-- A number of characters of a class. -/
def exactly (n : Nat) (p : Char → Bool) : Reader (List Char) := fun c =>
  let piece := (c.rest.take n).takeWhile p
  if piece.length < n then Reader.miss none c
  else .ok piece ⟨c.pos + byteLength piece, c.rest.drop n⟩

/-- A certain piece of text, as a whole. -/
def word (w : String) : Reader Unit := fun c =>
  if w.toList.isPrefixOf c.rest then
    .ok () ⟨c.pos + byteLength w.toList, c.rest.drop w.toList.length⟩
  else Reader.miss none c

/-- The end of the text. -/
def ending : Reader Unit := fun c => if c.rest.isEmpty then .ok () c else Reader.miss none c

end Rulebook.Toml
