import Rulebook.Entry.Basic
import Rulebook.Registry.Location

/-!
# The registry

Entries are registered in batches into a draft, which is then frozen. The first entry with an id
wins; each later one is an error and leaves no other trace than the index it takes.

* `Draft.register`: the draft with one more batch.
* `Registry`: every entry by its reference, and the errors of the registration.
* `Registry.get?`, `Registry.location?`, `Registry.resolve`, `Registry.resolveInto`: looking an
  entry up.
* `Registry.entries`: all entries in order.
-/

namespace Rulebook

/-- An entry and where it was registered. -/
structure Registered where
  entry : Entry
  location : Location
  deriving DecidableEq

/-- A second entry with an id that its collection has already. -/
structure DuplicateId where
  collection : Collection
  id : String
  first : Location
  again : Location
  deriving DecidableEq, Repr

/-- The error in one line. -/
def DuplicateId.message (e : DuplicateId) : String :=
  s!"duplicate id '{e.id}' in {e.collection.name}: first registered at {e.first.text}, " ++
    s!"again at {e.again.text}"

/-- Why a reference could not be looked up. -/
inductive ResolveError where
  /-- The collection has no entry with this id. -/
  | notFound (reference : Reference)
  /-- The reference points into another collection than its field accepts. -/
  | wrongCollection (expected : Collection) (reference : Reference)
  deriving DecidableEq, Repr

/-- The error in one line. -/
def ResolveError.message : ResolveError → String
  | notFound r => s!"{r.text} not found"
  | wrongCollection c r => s!"expected a reference into {c.name}, found {r.text}"

/-- Every registered entry by its reference, and the errors of the registration in order. -/
structure Registry where
  table : Std.ExtTreeMap Reference Registered := ∅
  errors : List DuplicateId := []

namespace Registry

/-- The entry of a collection with an id. -/
def get? (r : Registry) (c : Collection) (id : String) : Option Entry :=
  (r.table.get? ⟨c, id⟩).map (·.entry)

/-- Where the entry of a collection with an id was registered. -/
def location? (r : Registry) (c : Collection) (id : String) : Option Location :=
  (r.table.get? ⟨c, id⟩).map (·.location)

/-- The entry that a reference points at. -/
def resolve (r : Registry) (ref : Reference) : Except ResolveError Entry :=
  match r.get? ref.collection ref.id with
  | some e => .ok e
  | none => .error (.notFound ref)

/-- The entry that a reference points at, for a field that accepts one collection, or any. -/
def resolveInto (r : Registry) (expected : Option Collection) (ref : Reference) :
    Except ResolveError Entry :=
  match expected with
  | some c => if ref.collection = c then r.resolve ref else .error (.wrongCollection c ref)
  | none => r.resolve ref

/-- Every entry with its reference, by collection and id. -/
def entries (r : Registry) : List (Reference × Entry) :=
  r.table.toList.map fun (ref, e) => (ref, e.entry)

/-- The entries of one collection, by id. -/
def collection (r : Registry) (c : Collection) : List Entry :=
  (r.entries.filter (·.1.collection = c)).map (·.2)

/-- The number of entries. -/
def size (r : Registry) : Nat := r.table.size

end Registry

/-- Entries that come together from one origin into one collection. -/
structure Batch where
  collection : Collection
  origin : String
  entries : List Entry

/-- A batch that is labelled with the name of its collection. -/
def Batch.unlabelled (c : Collection) (entries : List Entry) : Batch := ⟨c, c.name, entries⟩

/-- A registry under construction: what is registered so far, and how many entries each origin
has offered. -/
structure Draft where
  registry : Registry := {}
  offered : Std.ExtTreeMap String Nat := ∅

namespace Draft

/-- The draft after one entry was offered. -/
def offer (c : Collection) (origin : String) (d : Draft) (e : Entry) : Draft :=
  let index := d.offered.getD origin 0
  let offered := d.offered.insert origin (index + 1)
  match d.registry.table.get? ⟨c, e.id⟩ with
  | some first =>
    let error := ⟨c, e.id, first.location, ⟨origin, index⟩⟩
    ⟨{ d.registry with errors := d.registry.errors ++ [error] }, offered⟩
  | none =>
    let table := d.registry.table.insert ⟨c, e.id⟩ ⟨e, ⟨origin, index⟩⟩
    ⟨{ d.registry with table }, offered⟩

/-- The draft with one more batch. -/
def register (d : Draft) (b : Batch) : Draft := b.entries.foldl (offer b.collection b.origin) d

/-- The registry of a draft that is complete. -/
def freeze (d : Draft) : Registry := d.registry

end Draft

/-- The registry of a list of batches, in the order of their registration. -/
def Registry.ofBatches (batches : List Batch) : Registry := (batches.foldl Draft.register {}).freeze

end Rulebook
