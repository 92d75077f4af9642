import Std.Data.ExtTreeMap
import Rulebook.Entry.Spell

/-!
# Entries

* `Record`: an entry of a lookup collection: a name, a template and named references.
* `Entry`: a spell or a record.
* `Entry.displayName`: the text that a reference to an entry is shown as.
-/

namespace Rulebook

/-- An entry of a lookup collection. `desc` is a template, and `links` are references by the name
of their field. -/
structure Record where
  id : String
  name : Option String := none
  desc : Option String := none
  links : Std.ExtTreeMap String Reference := ∅
  deriving DecidableEq

/-- An entry of a rulebook. -/
inductive Entry where
  | spell (s : Spell)
  | record (r : Record)
  deriving DecidableEq

namespace Entry

/-- The id of an entry, unique in its collection. -/
def id : Entry → String
  | spell s => s.id
  | record r => r.id

/-- The name of an entry. A record may have none. -/
def name? : Entry → Option String
  | spell s => some s.name
  | record r => r.name

/-- The text that a reference to the entry is shown as: its name, else its id. -/
def displayName (e : Entry) : String := e.name?.getD e.id

/-- Whether an entry is a spell. -/
def isSpell : Entry → Bool
  | spell _ => true
  | record _ => false

end Entry

end Rulebook
