/-!
# Collections

The content of a rulebook is kept in a fixed set of collections.

* `Collection`: the collections, and `Collection.all` for their order.
* `Collection.name`, `Collection.parse`: the name of a collection, and the collection of a name.
* `compare` on collections: the order of `Collection.all`.
-/

namespace Rulebook

open Std

/-- The collections of a rulebook. -/
inductive Collection where
  | spells
  | monsters
  | conditions
  | damageTypes
  | abilityScores
  | skills
  | magicSchools
  | items
  deriving DecidableEq, Repr

/-- A name that no collection has. -/
structure UnknownCollection where
  name : String
  deriving DecidableEq, Repr

/-- The error in one line. -/
def UnknownCollection.message (e : UnknownCollection) : String := s!"unknown collection '{e.name}'"

namespace Collection

/-- All collections, in order. -/
def all : List Collection :=
  [spells, monsters, conditions, damageTypes, abilityScores, skills, magicSchools, items]

theorem mem_all (c : Collection) : c ∈ all := by cases c <;> decide

/-- The name of a collection. -/
def name : Collection → String
  | spells => "spells"
  | monsters => "monsters"
  | conditions => "conditions"
  | damageTypes => "damageTypes"
  | abilityScores => "abilityScores"
  | skills => "skills"
  | magicSchools => "magicSchools"
  | items => "items"

/-- The collection of a name. -/
def ofName? (name : String) : Option Collection := all.find? (·.name = name)

@[simp] theorem ofName?_name (c : Collection) : ofName? c.name = some c := by cases c <;> decide

theorem name_of_ofName? {n : String} {c : Collection} (h : ofName? n = some c) : c.name = n := by
  simpa using List.find?_some h

theorem name_injective {c d : Collection} (h : c.name = d.name) : c = d := by
  have := congrArg ofName? h
  simpa using this

/-- The collection of a name, or the error that there is none. -/
def parse (name : String) : Except UnknownCollection Collection :=
  match ofName? name with
  | some c => .ok c
  | none => .error ⟨name⟩

/-- The position of a collection among all of them. -/
def index : Collection → Nat
  | spells => 0
  | monsters => 1
  | conditions => 2
  | damageTypes => 3
  | abilityScores => 4
  | skills => 5
  | magicSchools => 6
  | items => 7

theorem all_index (c : Collection) : all[c.index]? = some c := by cases c <;> rfl

theorem index_injective {c d : Collection} (h : c.index = d.index) : c = d := by
  have := all_index c
  rw [h, all_index d] at this
  exact (Option.some.inj this).symm

instance : Ord Collection := ⟨compareOn index⟩

instance : TransOrd Collection := inferInstanceAs (TransCmp (compareOn index))

instance : LawfulEqOrd Collection where
  eq_of_compare h := index_injective (LawfulEqOrd.eq_of_compare h)

end Collection

end Rulebook
