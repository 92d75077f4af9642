import Rulebook.Reference.Collection

/-!
# References

A reference points at an entry by its collection and its id. It may be written before the entry
exists; only looking it up can fail.

* `Reference`: a collection and an id.
* `Reference.text`: a reference as it is written in messages.
* `compare` on references: by collection, then by id.
-/

namespace Rulebook

open Std

/-- A pointer at an entry of a collection. -/
structure Reference where
  collection : Collection
  id : String
  deriving DecidableEq, Repr

namespace Reference

/-- A reference as it is written in messages. -/
def text (r : Reference) : String := s!"{r.collection.name}/{r.id}"

instance : Ord Reference := ⟨compareLex (compareOn collection) (compareOn id)⟩

instance : TransOrd Reference :=
  inferInstanceAs (TransCmp (compareLex (compareOn collection) (compareOn id)))

instance : LawfulEqOrd Reference where
  eq_of_compare {a b} h := by
    obtain ⟨hc, hi⟩ := compareLex_eq_eq.1 h
    have hc : a.collection = b.collection := LawfulEqOrd.eq_of_compare hc
    have hi : a.id = b.id := LawfulEqOrd.eq_of_compare hi
    cases a
    cases b
    simp_all

end Reference

end Rulebook
