import Rulebook.Datum.Basic

/-!
# Decoding data

Decoders for the shapes that content is made of, and the errors they end with.

* `DecodeError`: why a datum is not what it should be, and `DecodeError.message`.
* `Decoder`: from data to values. What a dialect accepts may differ.
* `decodeText`, `decodeBool`, `decodeWord8`, `decodeWord32`, `decodeList`, `decodeOption`,
  `decodeMap`: simple shapes.
* `Variants`, `decodeVariant`: one of some named alternatives.
* `Fields`: the fields of a structure, which is a map or a list of its fields in order.
* `Tagged`: a structure whose fields depend on the alternative that one of them names.
-/

namespace Rulebook

/-- Why a datum is not what it should be. -/
inductive DecodeError where
  /-- A datum of another shape. -/
  | invalidType (found : Datum) (expected : String)
  /-- A datum of the right shape that stands for no value. -/
  | invalidValue (found : Datum) (expected : String)
  /-- A list that is too short or too long. -/
  | invalidLength (length : Nat) (expected : String)
  /-- A field that a structure cannot do without. -/
  | missingField (name : String)
  /-- A name that no field of a structure has. -/
  | unknownField (name : String) (known : List String)
  /-- A name that no alternative has. -/
  | unknownVariant (name : String) (known : List String)
  /-- A table that should name one alternative and names none or several. -/
  | notOneVariant (size : Nat)
  /-- A datum that should name an alternative. -/
  | notVariant
  /-- A table or a list that stands behind the name of an alternative and is not empty. -/
  | notEmpty
  /-- Tables with headers of their own behind the name of an alternative. -/
  | headedTables
  /-- Another datum behind the name of an alternative. -/
  | notTable (found : String)

/-- Names in a message, as the ones that were expected. -/
def nameChoice : List String → String
  | [] => "there are no names"
  | [a] => s!"expected `{a}`"
  | [a, b] => s!"expected `{a}` or `{b}`"
  | names => "expected one of " ++ ", ".intercalate (names.map fun n => s!"`{n}`")

/-- The error in one line. -/
def DecodeError.message (dialect : Dialect) : DecodeError → String
  | invalidType found expected => s!"invalid type: {found.describe dialect}, expected {expected}"
  | invalidValue found expected => s!"invalid value: {found.describe dialect}, expected {expected}"
  | invalidLength n expected => s!"invalid length {n}, expected {expected}"
  | missingField name => s!"missing field `{name}`"
  | unknownField name known => s!"unknown field `{name}`, {nameChoice known}"
  | unknownVariant name known => s!"unknown variant `{name}`, {nameChoice known}"
  | notOneVariant 0 => "wanted exactly 1 element, found 0 elements"
  | notOneVariant _ => "wanted exactly 1 element, more than 1 element"
  | notVariant => "wanted string or table"
  | notEmpty => "expected empty table"
  | headedTables => "expected empty array"
  | notTable found => s!"expected table, found {found}"

/-- From data to values. -/
abbrev Decoder (α : Type) := Dialect → Datum → Except DecodeError α

/-- A text. -/
def decodeText : Decoder String
  | _, .text s => .ok s
  | _, d => .error (.invalidType d "a string")

/-- A truth value. -/
def decodeBool : Decoder Bool
  | _, .bool b => .ok b
  | _, d => .error (.invalidType d "a boolean")

/-- An integer from 0 up to a limit. -/
def decodeNat (limit : Nat) (expected : String) : Decoder Nat
  | _, .int n => if 0 ≤ n ∧ n < limit then .ok n.toNat else .error (.invalidValue (.int n) expected)
  | _, d => .error (.invalidType d expected)

/-- An integer of 8 bits. -/
def decodeWord8 : Decoder UInt8 := fun dialect d =>
  UInt8.ofNat <$> decodeNat UInt8.size "u8" dialect d

/-- An integer of 32 bits. -/
def decodeWord32 : Decoder UInt32 := fun dialect d =>
  UInt32.ofNat <$> decodeNat UInt32.size "u32" dialect d

variable {α : Type}

/-- A list. -/
def decodeList (decode : Decoder α) : Decoder (List α) := fun dialect d =>
  match d.items? with
  | some items => items.mapM (decode dialect)
  | none => .error (.invalidType d "a sequence")

/-- A value that may be null. -/
def decodeOption (decode : Decoder α) : Decoder (Option α)
  | _, .null => .ok none
  | dialect, d => some <$> decode dialect d

/-- The values of a map, with their names. -/
def decodeMap (decode : Decoder α) : Decoder (List (String × α)) := fun dialect d =>
  match d.fields? with
  | some fields => fields.mapM fun (name, value) => (name, ·) <$> decode dialect value
  | none => .error (.invalidType d "a map")

/-- A type of named alternatives. -/
class Variants (α : Type) where
  /-- All alternatives, in the order in which messages name them. -/
  all : List α
  name : α → String
  /-- Every alternative is the one of its name. -/
  find_name (a : α) : all.find? (name · = name a) = some a

namespace Variants

variable [Variants α]

/-- The names of all alternatives. -/
def names (α : Type) [Variants α] : List String := (all : List α).map name

/-- The alternative of a name. -/
def ofName (n : String) : Except DecodeError α :=
  match all.find? (name · = n) with
  | some a => .ok a
  | none => .error (.unknownVariant n (names α))

@[simp] theorem ofName_name (a : α) : ofName (name a) = .ok a := by
  rw [ofName, find_name]

end Variants

namespace Datum

/-- The shape of a datum, as the error about a table that is missing names it. -/
def shapeName : Datum → String
  | null => "none"
  | bool _ => "boolean"
  | int _ => "integer"
  | float _ => "float"
  | text _ => "string"
  | list _ | tables _ => "array"
  | map _ => "table"
  | date _ => "datetime"

end Datum

open Variants in
/-- One of some named alternatives: its name, or a map whose only field has that name and nothing
in it. Nothing is null in one dialect, and an empty table or list in the other. -/
def decodeVariant [Variants α] : Decoder α
  | _, .text s => ofName s
  | .json, .map [(n, payload)] => do
    let a ← ofName n
    match payload with
    | .null => return a
    | d => throw (.invalidType d "unit")
  | .json, .map fields => throw (.invalidValue (.map fields) "map with a single key")
  | .json, d => throw (.invalidType d "string or map")
  | .toml, .map [(n, payload)] => do
    let a ← ofName n
    match payload with
    | .map [] | .list [] => return a
    | .map _ | .list _ => throw .notEmpty
    | .tables _ => throw .headedTables
    | d => throw (.notTable d.shapeName)
  | .toml, .map fields => throw (.notOneVariant fields.length)
  | .toml, _ => throw .notVariant

open Variants in
/-- One of some named alternatives inside a tagged structure, which has the same rules in all
dialects. -/
def decodeTaggedVariant [Variants α] : Decoder α
  | _, .text s => ofName s
  | _, d =>
    match d.fields? with
    | some [(n, payload)] => do
      let a ← ofName n
      match payload with
      | .null | .map [] => return a
      | d => throw (.invalidType d "unit")
    | some fields => throw (.invalidValue (.map fields) "map with a single key")
    | none => throw (.invalidType d "string or map")

/-- A number of elements, as messages name it. -/
def elements (n : Nat) : String := if n = 1 then "1 element" else s!"{n} elements"

/-- The fields of a structure that has the names `names`. `listed` is the number of fields of one
that is given as a list. -/
structure Fields where
  title : String
  names : List String
  present : List (String × Datum)
  listed : Option Nat
  dialect : Dialect

namespace Fields

/-- The fields of a structure. -/
def ofDatum (title : String) (names : List String) (dialect : Dialect) (d : Datum) :
    Except DecodeError Fields :=
  match d.items?, d.fields? with
  | some items, _ => .ok ⟨title, names, names.zip items, some items.length, dialect⟩
  | none, some fields => .ok ⟨title, names, fields, none, dialect⟩
  | none, none => .error (.invalidType d title)

variable (f : Fields)

/-- The value of a field that is there. -/
def read? (name : String) (decode : Decoder α) : Except DecodeError (Option α) :=
  match f.present.lookup name with
  | some d => some <$> decode f.dialect d
  | none => .ok none

/-- The value of a field that may be absent. -/
def readD (name : String) (decode : Decoder α) (default : α) : Except DecodeError α :=
  (·.getD default) <$> f.read? name decode

/-- The value of a field that the structure cannot do without, after all fields were read. -/
def need (name : String) : Option α → Except DecodeError α
  | some a => .ok a
  | none =>
    match f.listed with
    | none => .error (.missingField name)
    | some _ =>
      .error (.invalidLength (f.names.idxOf name) s!"{f.title} with {elements f.names.length}")

/-- The structure, unless it was given as a list that is too long. -/
def finish (a : α) : Except DecodeError α :=
  match f.dialect, f.listed with
  | .json, some n =>
    if f.names.length < n then .error (.invalidLength n "fewer elements in array") else .ok a
  | _, _ => .ok a

/-- The structure inside a tagged one, unless it was given as a list that is too long. -/
def finishTagged (a : α) : Except DecodeError α :=
  match f.listed with
  | some n =>
    if f.names.length < n then
      .error (.invalidLength n s!"{elements f.names.length} in sequence")
    else .ok a
  | none => .ok a

end Fields

/-- A structure that names one of some alternatives, and the fields that are left for it. -/
structure Tagged (α : Type) where
  variant : α
  content : Datum
  dialect : Dialect

namespace Tagged

/-- The name of the field that names the alternative. -/
def tag : String := "kind"

/-- The alternative that a datum names. -/
def readTag [Variants α] : Datum → Except DecodeError α
  | .text s => Variants.ofName s
  | d => .error (.invalidType d "variant identifier")

/-- The alternative of a structure, and its other fields. In a list the alternative comes first. -/
def ofDatum [Variants α] (title : String) (dialect : Dialect) (d : Datum) :
    Except DecodeError (Tagged α) :=
  match d.items?, d.fields? with
  | some [], _ => .error (.missingField tag)
  | some (t :: content), _ => (⟨·, .list content, dialect⟩) <$> readTag t
  | none, some fields =>
    match fields.lookup tag with
    | some t => (⟨·, .map (fields.filter (·.1 ≠ tag)), dialect⟩) <$> readTag t
    | none => .error (.missingField tag)
  | none, none => .error (.invalidType d title)

/-- The fields that are left for the alternative. -/
def fields (t : Tagged α) (title : String) (names : List String) : Except DecodeError Fields :=
  Fields.ofDatum title names t.dialect t.content

/-- The structure, for an alternative without fields: others that are named do not matter, and a
list has to end behind the alternative. -/
def bare {β : Type} (t : Tagged α) (b : β) : Except DecodeError β :=
  match t.content.items? with
  | some (d :: ds) =>
    .error (.invalidLength (d :: ds).length s!"{elements 0} in sequence")
  | _ => .ok b

end Tagged

end Rulebook
