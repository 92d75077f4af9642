/-!
# Locations of entries

* `Location`: where an entry was registered: the label of its origin and its index there.
* `compare` on locations: by origin, then by index.
-/

namespace Rulebook

open Std

/-- The place of an entry: the label of the origin it was registered from and how many entries
that origin had offered before. -/
structure Location where
  origin : String
  index : Nat
  deriving DecidableEq, Repr

namespace Location

/-- A location as it is written in messages. -/
def text (l : Location) : String := s!"{l.origin}[{l.index}]"

instance : Ord Location := ⟨compareLex (compareOn origin) (compareOn index)⟩

instance : TransOrd Location :=
  inferInstanceAs (TransCmp (compareLex (compareOn origin) (compareOn index)))

instance : LawfulEqOrd Location where
  eq_of_compare {a b} h := by
    obtain ⟨ho, hi⟩ := compareLex_eq_eq.1 h
    have ho : a.origin = b.origin := LawfulEqOrd.eq_of_compare ho
    have hi : a.index = b.index := LawfulEqOrd.eq_of_compare hi
    cases a
    cases b
    simp_all

end Location

end Rulebook
