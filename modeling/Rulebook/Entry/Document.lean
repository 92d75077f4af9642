import Rulebook.Datum.Decoder
import Rulebook.Toml.Document

/-!
# Content from a document

* `LoadError`: why a document is not the content it should be, and `LoadError.message`.
* `decodeDocument`: the content that a document is.
-/

namespace Rulebook

/-- Why a document is not the content it should be. -/
inductive LoadError where
  /-- It cannot be read. -/
  | unreadable (e : Toml.Complaint)
  /-- It says something else. -/
  | content (e : DecodeError)

/-- The error without its place. -/
def LoadError.message : LoadError → String
  | unreadable e => e.message
  | content e => e.message .toml

/-- The content that a document is. -/
def decodeDocument {α : Type} (decode : Decoder α) (source : String) : Except LoadError α := do
  let table ← (Toml.parseDocument source.toList).mapError .unreadable
  (decode .toml table.datum).mapError .content

end Rulebook
