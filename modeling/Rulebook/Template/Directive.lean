import Rulebook.Formula.Parser
import Rulebook.Reference.Basic

/-!
# Directives of a template

```text
directive := 'dice' formula | 'ref' collection id ['|' display]
```

* `DiceDirective`, `RefDirective`, `Node`: what a template is made of.
* `DirectiveFault`: why a body is no directive.
* `Node.ofBody`: the node of a directive, from its body and the position of its `%{`.
-/

namespace Rulebook.Template

/-- A formula in a template, and its text as written. -/
structure DiceDirective where
  formula : Formula
  source : String
  deriving DecidableEq, Repr

/-- A reference in a template. `display` is shown in place of the name of its target, and `raw` is
the whole directive as written. -/
structure RefDirective where
  target : Reference
  display : Option String
  raw : String
  deriving DecidableEq, Repr

/-- A piece of a template. -/
inductive Node where
  | literal (text : String)
  | dice (d : DiceDirective)
  | ref (r : RefDirective)
  deriving DecidableEq, Repr

/-- The formula of a dice directive. -/
def Node.formula? : Node → Option Formula
  | dice d => some d.formula
  | _ => none

/-- The directive of a reference. -/
def Node.ref? : Node → Option RefDirective
  | ref r => some r
  | _ => none

/-- Why a body is no directive. -/
inductive DirectiveFault where
  | empty
  | unknownKeyword (word : String)
  | missingCollection
  | unknownCollection (cause : UnknownCollection)
  | missingId
  | splitId
  | emptyDisplay
  deriving DecidableEq, Repr

/-- The fault in one line. -/
def DirectiveFault.message : DirectiveFault → String
  | empty => "empty directive"
  | unknownKeyword word => s!"unknown directive '{word}', expected 'dice' or 'ref'"
  | missingCollection => "missing collection"
  | unknownCollection cause => cause.message
  | missingId => "missing id"
  | splitId => "id must be a single word"
  | emptyDisplay => "empty display text after '|'"

/-- The error that a fault is, at the piece of text that it is about. -/
def DirectiveFault.toParseError (fault : DirectiveFault) (pos : Nat) (piece : List Char) :
    ParseError :=
  .directive (.ofPiece pos piece) (String.ofList piece) fault.message

/-- Text around the first `|`. -/
def splitBar (text : List Char) : List Char × Option (List Char) :=
  match text.dropWhile (· != '|') with
  | [] => (text, none)
  | _ :: display => (text.takeWhile (· != '|'), some display)

/-- The id and the display text of a reference, from the text behind its collection. -/
def readTarget (text : List Char) :
    Except DirectiveFault (List Char × Option (List Char)) :=
  match trim text with
  | [] => .error .missingId
  | target =>
    let (left, right) := splitBar target
    let id := trim left
    let display := right.map trim
    if id.isEmpty then .error .missingId
    else if id.any isBlank then .error .splitId
    else if display = some [] then .error .emptyDisplay
    else .ok (id, display)

/-- A dice directive, from the text behind its keyword. -/
def readDice (pos : Nat) (args : List Char) : Except ParseError DiceDirective :=
  match Formula.parseChars args with
  | .ok formula => .ok ⟨formula, String.ofList (trim args)⟩
  | .error e => .error (e.shift pos)

/-- A reference directive `raw` at `start`, from the text behind its keyword. -/
def readRef (start : Nat) (raw : List Char) (pos : Nat) (args : List Char) :
    Except ParseError RefDirective :=
  match firstWord? args with
  | none => .error (DirectiveFault.missingCollection.toParseError start raw)
  | some (before, word, after) =>
    match Collection.parse (String.ofList word) with
    | .error e =>
      let fault : DirectiveFault := .unknownCollection e
      .error (fault.toParseError (pos + byteLength before) word)
    | .ok collection =>
      match readTarget after with
      | .error fault => .error (fault.toParseError start raw)
      | .ok (id, display) =>
        .ok ⟨⟨collection, String.ofList id⟩, display.map String.ofList, String.ofList raw⟩

/-- The node of the directive with a body, whose `%{` stands at `start`. -/
def Node.ofBody (start : Nat) (body : List Char) : Except ParseError Node :=
  let raw := '%' :: '{' :: body ++ ['}']
  let inside := start + 2
  match firstWord? body with
  | none => .error (DirectiveFault.empty.toParseError start raw)
  | some (before, word, args) =>
    let wordAt := inside + byteLength before
    let argsAt := wordAt + byteLength word
    if word = "dice".toList then dice <$> readDice argsAt args
    else if word = "ref".toList then ref <$> readRef start raw argsAt args
    else .error ((DirectiveFault.unknownKeyword (String.ofList word)).toParseError wordAt word)

end Rulebook.Template
