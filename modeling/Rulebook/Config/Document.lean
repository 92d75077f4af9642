import Rulebook.Config.Basic
import Rulebook.Datum.Decoder
import Rulebook.Toml.Document
import Rulebook.Toml.Excerpt

/-!
# Configuration from a document

* `ConfigError`: why a document is no configuration, and `ConfigError.message`.
* `BuildConfig.ofToml`: the configuration that a document is.
-/

namespace Rulebook

open Toml

instance : Variants Severity where
  all := [.error, .warning]
  name := Severity.name
  find_name a := by cases a <;> decide

/-- Why a document is no configuration. -/
inductive ConfigError where
  /-- It cannot be read. -/
  | unreadable (e : Complaint)
  /-- A field is not what it should be. -/
  | content (span : Span) (e : DecodeError)

/-- The error with the line of the document that it is about. -/
def ConfigError.message (source : String) (e : ConfigError) : String :=
  let cs := source.toList
  let (span, text) :=
    match e with
    | unreadable e => (e.span cs, e.message)
    | content span e => (span, e.message .toml)
  "Failed to parse build config TOML: " ++ excerpt cs span ++ text ++ "\n"

/-- The part of a value that names an alternative which an error is about: the name in a table, or
what stands behind that name. -/
def namedPart? : Tree → DecodeError → Option Span
  | .table ⟨_, _, [(key, payload)], _⟩, e =>
    match e with
    | .unknownVariant .. => some key.span
    | .notTable _ | .notEmpty | .headedTables => payload.span?
    | _ => none
  | _, _ => none

namespace BuildConfig

/-- The names of all options. -/
def fieldNames : List String :=
  ["parallel", "template_reference_severity", "effect_on_save_warnings"]

/-- The value of an option. Errors are about the value, or about its key where the value is not
one piece of text. -/
def readOption {α : Type} (key : Key) (value : Tree) (decode : Decoder α) :
    Except ConfigError α :=
  (decode .toml value.datum).mapError fun e =>
    .content (((namedPart? value e).or value.span?).getD key.span) e

/-- A configuration with one more option from a document. -/
def withField (c : BuildConfig) : Key × Tree → Except ConfigError BuildConfig
  | (key, value) => do
    match key.name with
    | "parallel" => return { c with parallel := ← readOption key value decodeBool }
    | "template_reference_severity" =>
      return { c with templateReferenceSeverity := ← readOption key value decodeVariant }
    | "effect_on_save_warnings" =>
      return { c with effectOnSaveWarnings := ← readOption key value decodeBool }
    | name => throw (.content key.span (.unknownField name fieldNames))

/-- The configuration that a document is. Options that it does not have keep their defaults. -/
def ofToml (source : String) : Except ConfigError BuildConfig := do
  let table ← (parseDocument source.toList).mapError .unreadable
  table.fields.foldlM withField {}

end BuildConfig

end Rulebook
