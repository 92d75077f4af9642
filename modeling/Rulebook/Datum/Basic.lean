import Rulebook.Decimal.Layout
import Rulebook.Text.Quoted

/-!
# Data

Structured data as it is written in a document, before it is known what it describes.

* `Datum`: the shapes of data.
* `Dialect`: the two kinds of documents that data comes from.
* `Datum.describe`: a datum as it is named in messages.
-/

namespace Rulebook

/-- Structured data. The fields of a map have different names. -/
inductive Datum where
  | null
  | bool (b : Bool)
  | int (n : Int)
  | float (x : Float)
  | text (s : String)
  | list (items : List Datum)
  /-- Maps that are written below headers of their own. To structures it is a list like others. -/
  | tables (items : List Datum)
  | map (fields : List (String × Datum))
  /-- A date or a time. Structures see it as a map with one field of a reserved name. -/
  | date (text : String)
  deriving Inhabited

/-- The kinds of documents that data comes from. -/
inductive Dialect where
  | json
  | toml
  deriving DecidableEq, Repr

/-- How a dialect writes floating-point numbers in messages. -/
def Dialect.layout : Dialect → Layout
  | json => .compact
  | toml => .plain

namespace Datum

/-- The reserved name under which a date shows its text. -/
def dateField : String := "$__toml_private_datetime"

/-- The items of a list or of tables. -/
def items? : Datum → Option (List Datum)
  | list items | tables items => some items
  | _ => none

/-- The fields of a map or of a date. -/
def fields? : Datum → Option (List (String × Datum))
  | map fields => some fields
  | date t => some [(dateField, text t)]
  | _ => none

/-- A datum as it is named in messages. -/
def describe (dialect : Dialect) : Datum → String
  | null => "null"
  | bool b => s!"boolean `{b}`"
  | int n => s!"integer `{n}`"
  | float x => s!"floating point `{dialect.layout.text x}`"
  | text s => s!"string {quoted s}"
  | list _ | tables _ => "sequence"
  | map _ | date _ => "map"

end Datum

end Rulebook
