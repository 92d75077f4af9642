import Rulebook.Graph.Resolved

/-!
# The content graph

* `ContentGraph`: every entry of a registry, resolved, and all diagnostics in order.
* `ContentGraph.resolveAll`: every entry of a registry, resolved apart from the others.
* `ContentGraph.build`: the graph of a registry.
* `ContentGraph.all`, `ContentGraph.valid`: every entry, and those that are fit for use.
-/

namespace Rulebook

open Std

/-- A duplicate id as a problem of the entry that has it. -/
def DuplicateId.diagnostic (e : DuplicateId) : Diagnostic :=
  ⟨e.collection, e.id, "id", .error, .duplicateId, e.message⟩

/-- The resolved entries of a registry and all diagnostics, sorted. -/
structure ContentGraph where
  entries : ExtTreeMap Reference ResolvedEntry := ∅
  diagnostics : List Diagnostic := []

namespace ContentGraph

/-- The entries of a registry, resolved one by one, in the order of the registry. -/
def resolveAll (registry : Registry) (config : BuildConfig) : List ResolvedEntry :=
  registry.entries.map fun (ref, e) => e.resolve ref.collection registry config

/-- The graph of a registry. An entry is held under its own collection and id, and its diagnostics
are put to the errors of the registration. -/
def build (registry : Registry) (config : BuildConfig) : ContentGraph :=
  let resolved := resolveAll registry config
  let own := resolved.flatMap (·.diagnostics)
  ⟨.ofList (resolved.map fun e => (e.ref, e)), sorted (registry.errors.map (·.diagnostic) ++ own)⟩

variable (g : ContentGraph)

/-- The entry of a collection with an id. -/
def get? (c : Collection) (id : String) : Option ResolvedEntry := g.entries.get? ⟨c, id⟩

/-- Every entry, by collection and id. -/
def all : List ResolvedEntry := g.entries.values

/-- The entries that are fit for use. -/
def valid : List ResolvedEntry := g.all.filter (·.valid)

/-- The entries of one collection, by id. -/
def collection (c : Collection) : List ResolvedEntry := g.all.filter (·.collection = c)

/-- Whether one of the diagnostics is an error. -/
def hasErrors : Bool := g.diagnostics.any (·.isError)

/-- The number of entries. -/
def size : Nat := g.entries.size

end ContentGraph

end Rulebook
