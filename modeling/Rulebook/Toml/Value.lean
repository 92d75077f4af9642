import Rulebook.Toml.Moment
import Rulebook.Toml.Tree

/-!
# Keys and values of a document

* `keyPath`: names with dots between them.
* `field`: a path with its value.
* `scalar`, `array`, `inlineTable`: the kinds of values.
* `value`: a value, in which arrays and tables nest up to a depth.
-/

namespace Rulebook.Toml

open Reader

/-- The depth from which on a document is refused. -/
def depthLimit : Nat := 80

/-- A name. -/
def name : Reader (List Char) := do
  match ← next? with
  | some '"' => basicText
  | some '\'' => literalText
  | _ => someOf isBare

/-- A name with the blanks around it. -/
def key : Reader Key := do
  blanks
  let ⟨text, span⟩ ← name.spanned
  blanks
  return ⟨String.ofList text, span⟩

/-- Names with dots between them. -/
def keyPath : Reader KeyPath :=
  (label "key" (key.separated1 (char '.'))).check fun (first, more) =>
    if more.length + 1 < depthLimit then .ok (.ofKeys first more) else .error (some .tooDeep)

/-- A path and the value behind its equals sign. -/
def field (value : Reader Tree) (after : Reader Unit) : Reader (KeyPath × Tree) := do
  let path ← keyPath
  commit do
    let _ ← expecting [.exact ".", .exact "="] (char '=')
    blanks
    let v ← value
    after
    return (path, v)

/-- A value that is a single datum. -/
def scalar {α : Type} (datum : α → Datum) (r : Reader α) : Reader Tree := do
  let ⟨a, span⟩ ← r.spanned
  return .scalar (datum a) span

/-- A moment or a number. -/
def momentOrNumber : Reader Tree :=
  scalar (.date ·.text) moment <|> scalar .float float <|> scalar .int integer

/-- A quoted text. -/
def quotedValue : Reader Tree := scalar (.text <| String.ofList ·) quotedText

/-- A truth value. -/
def truth (w : String) (b : Bool) : Reader Tree := scalar .bool do (word w).commit; return b

/-- A reader whose complaints ask for the quotes of a text. -/
def orQuotes : Reader Tree → Reader Tree :=
  fun r => label "string" (expecting [.exact "\"", .exact "'"] r)

/-- The items of an array. A comma may stand behind the last one. -/
def items (value : Reader Tree) : Reader (List Tree) := do
  if (← next?) == some ']' then return []
  let items ← separated (do gap; let v ← value; gap; return v) (char ',')
  if !items.isEmpty then let _ ← (char ',').optional
  gap
  return items

/-- An array. -/
def array (value : Reader Tree) : Reader Tree := do
  let ⟨items, span⟩ ← spanned do
    let _ ← char '['
    let items ← (items value).commit
    let _ ← label "array" (expecting [.exact "]"] (char ']').commit)
    return items
  return .array items span

/-- A table in braces, with its fields put in. -/
def inlineFields (fields : List (KeyPath × Tree)) : Except Cause Table :=
  fields.foldlM (fun t (path, v) => t.insert none path v) ⟨.inline, .explicit, [], none⟩

/-- A table in braces. -/
def inlineTable (value : Reader Tree) : Reader Tree := do
  let ⟨t, span⟩ ← spanned do
    let _ ← char '\x7b'
    let fields := do
      let fields ← separated (field value blanks) (char ',')
      blanks
      return fields
    let t ← commit <| fields.check fun fields => (inlineFields fields).mapError some
    let _ ← label "inline table" (expecting [.exact "\x7d"] (char '\x7d').commit)
    return t
  return .table { t with span := some span }

/-- A value, with the readers for arrays and tables. A word that is not one of the four keywords is
taken for a text without quotes. -/
def valueOf (array inlineTable : Reader Tree) : Reader Tree := do
  match ← next? with
  | none => Reader.miss none
  | some '"' | some '\'' => quotedValue
  | some '[' => array
  | some '\x7b' => inlineTable
  | some '_' => expecting [.noun "leading digit"] (scalar .int integer)
  | some '.' => expecting [.noun "leading digit"] (scalar .float float)
  | some 't' => orQuotes (truth "true" true)
  | some 'f' => orQuotes (truth "false" false)
  | some 'i' => orQuotes (scalar .float infinite)
  | some 'n' => orQuotes (scalar .float notANumber)
  | some c =>
    if c == '+' || c == '-' || c.isDigit then momentOrNumber
    else orQuotes (Reader.miss none)

/-- A value whose arrays and tables nest at most `depth` deep. -/
def value : (depth : Nat) → Reader Tree
  | 0 =>
    let refuse := commit (Reader.miss (some .tooDeep))
    valueOf refuse refuse
  | depth + 1 => valueOf (array (value depth)) (inlineTable (value depth))

end Rulebook.Toml
