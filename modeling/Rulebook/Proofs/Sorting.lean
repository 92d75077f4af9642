import Mathlib.Data.Prod.Lex
import Rulebook.Diagnostic.Basic
import Rulebook.Proofs.Text.Bytes
import Rulebook.Reference.Basic
import Rulebook.Registry.Location
import Rulebook.Sorting

/-!
# Sorting is canonical

Diagnostics, references and locations are ordered field by field, so each of them has a key of
numbers and bytes that is compared from left to right. Values with equal keys are equal, and
therefore a list has one sorted form, whatever order its elements come in.

* `KeyedBy`: a comparison that goes by a key, put together from those of the fields.
* `Diagnostic.key`, `Reference.key`, `Location.key`: what is compared, in order.
* `Canonical`: a total order by a key, in which only equal values are equal, and what it does to
  lists.
* `sorting_canonical`: **the order of diagnostics, references and locations is canonical.**
-/

namespace Rulebook

open Std

/-- **A comparison by keys.** -/
structure KeyedBy {α κ : Type} [LT κ] (cmp : α → α → Ordering) (key : α → κ) : Prop where
  lt_iff : ∀ a b, cmp a b = .lt ↔ key a < key b
  eq_iff : ∀ a b, cmp a b = .eq ↔ key a = key b

namespace KeyedBy

variable {α β κ κ' : Type} [LT κ] [LT κ']

theorem number : KeyedBy (compare : Nat → Nat → Ordering) id where
  lt_iff _ _ := Nat.compare_eq_lt
  eq_iff _ _ := Nat.compare_eq_eq

theorem text : KeyedBy (compare : String → String → Ordering) bytes where
  lt_iff _ _ := compare_eq_lt_iff_bytes
  eq_iff s t := by rw [LawfulEqCmp.compare_eq_iff_eq, bytes_inj]

theorem on [Ord β] {key : β → κ} (h : KeyedBy compare key) (f : α → β) :
    KeyedBy (compareOn f) fun a => key (f a) where
  lt_iff a b := h.lt_iff (f a) (f b)
  eq_iff a b := h.eq_iff (f a) (f b)

/-- **One comparison after another one**: the second key counts where the first ones are equal. -/
theorem lex {cmp cmp' : α → α → Ordering} {key : α → κ} {key' : α → κ'} (h : KeyedBy cmp key)
    (h' : KeyedBy cmp' key') : KeyedBy (compareLex cmp cmp') fun a => toLex (key a, key' a) where
  lt_iff a b := by
    rw [Prod.Lex.toLex_lt_toLex, ← h.lt_iff, ← h.eq_iff, ← h'.lt_iff, compareLex,
      Ordering.then_eq_lt]
  eq_iff a b := by
    rw [compareLex_eq_eq, h.eq_iff, h'.eq_iff, toLex_inj, Prod.mk.injEq]

/-- Collections are compared by their positions in the list of all. -/
theorem collection : KeyedBy (compare : Collection → Collection → Ordering)
    Collection.all.idxOf := by
  have hindex : Collection.index = Collection.all.idxOf := by
    funext c
    cases c <;> rfl
  rw [← hindex]
  exact number.on Collection.index

/-- Kinds are compared by their positions in the list of all. -/
theorem kind : KeyedBy (compare : DiagnosticKind → DiagnosticKind → Ordering)
    DiagnosticKind.all.idxOf := by
  have hrank : DiagnosticKind.rank = DiagnosticKind.all.idxOf := by
    funext k
    cases k <;> rfl
  rw [← hrank]
  exact number.on DiagnosticKind.rank

/-- An error is compared as 0, a warning as 1. -/
theorem severity : KeyedBy (compare : Severity → Severity → Ordering) Severity.rank :=
  number.on Severity.rank

end KeyedBy

/-! ## Keys -/

/-- What is compared of a location: the bytes of its label, then its index as a number. -/
def Location.key (l : Location) : List UInt8 ×ₗ Nat := toLex (bytes l.origin, l.index)

/-- What is compared of a reference: its collection, then the bytes of its id. -/
def Reference.key (r : Reference) : Nat ×ₗ List UInt8 :=
  toLex (Collection.all.idxOf r.collection, bytes r.id)

/-- What is compared of a diagnostic: its collection, the bytes of its id, those of its field, its
severity, its kind and the bytes of its message. -/
def Diagnostic.key (d : Diagnostic) :
    Nat ×ₗ List UInt8 ×ₗ List UInt8 ×ₗ Nat ×ₗ Nat ×ₗ List UInt8 :=
  toLex (Collection.all.idxOf d.collection, toLex (bytes d.id, toLex (bytes d.field,
    toLex (d.severity.rank, toLex (DiagnosticKind.all.idxOf d.kind, bytes d.message)))))

theorem location_keyedBy : KeyedBy (compare : Location → Location → Ordering) Location.key :=
  (KeyedBy.text.on Location.origin).lex (KeyedBy.number.on Location.index)

theorem reference_keyedBy : KeyedBy (compare : Reference → Reference → Ordering) Reference.key :=
  (KeyedBy.collection.on Reference.collection).lex (KeyedBy.text.on Reference.id)

theorem diagnostic_keyedBy :
    KeyedBy (compare : Diagnostic → Diagnostic → Ordering) Diagnostic.key :=
  have behind_field := (KeyedBy.severity.on Diagnostic.severity).lex
    ((KeyedBy.kind.on Diagnostic.kind).lex (KeyedBy.text.on Diagnostic.message))
  (KeyedBy.collection.on Diagnostic.collection).lex
    ((KeyedBy.text.on Diagnostic.id).lex ((KeyedBy.text.on Diagnostic.field).lex behind_field))

/-! ## Canonical orders -/

/-- **A canonical order.** It goes by a key, it is total, it takes only equal values for equal, and
so every list has one ascending form, which does not depend on how its elements come. -/
structure Canonical {α κ : Type} [Ord α] [LT κ] (key : α → κ) : Prop where
  lt_iff : ∀ a b : α, compare a b = .lt ↔ key a < key b
  eq_iff : ∀ a b : α, compare a b = .eq ↔ a = b
  swap : ∀ a b : α, compare b a = (compare a b).swap
  total : ∀ a b : α, (compare a b).isLE ∨ (compare b a).isLE
  trans : ∀ a b c : α, (compare a b).isLE → (compare b c).isLE → (compare a c).isLE
  perm : ∀ l : List α, (sorted l).Perm l
  ascends : ∀ l : List α, (sorted l).Pairwise fun a b => (compare a b).isLE
  unique : ∀ l m : List α, m.Perm l → (m.Pairwise fun a b => (compare a b).isLE) → m = sorted l
  sorted_eq : ∀ l l' : List α, l.Perm l' → sorted l = sorted l'

theorem KeyedBy.canonical {α κ : Type} [Ord α] [TransOrd α] [LawfulEqOrd α] [LT κ] {key : α → κ}
    (h : KeyedBy (compare : α → α → Ordering) key) : Canonical key where
  lt_iff := h.lt_iff
  eq_iff _ _ := LawfulEqCmp.compare_eq_iff_eq
  swap _ _ := OrientedCmp.eq_swap
  total a b := by
    rw [show compare b a = (compare a b).swap from OrientedCmp.eq_swap]
    cases compare a b <;> decide
  trans _ _ _ := TransCmp.isLE_trans
  perm := sorted_perm
  ascends := sorted_pairwise
  unique _ _ := eq_sorted
  sorted_eq _ _ := sorted_eq_of_perm

/-- **Sorting is canonical.** Diagnostics are ordered by collection, id, field, severity, kind and
message, references by collection and id, and locations by label and index: collections and kinds as
they are listed, errors before warnings, texts by their bytes in UTF-8, and indices as numbers.
These are total orders without ties, and two lists with the same elements have the same sorted
list. -/
theorem sorting_canonical :
    Canonical Diagnostic.key ∧ Canonical Reference.key ∧ Canonical Location.key :=
  ⟨diagnostic_keyedBy.canonical, reference_keyedBy.canonical, location_keyedBy.canonical⟩

/-- Indices are sorted as numbers, and a letter of two bytes comes behind those of one byte. -/
theorem sorting_canonical_labels :
    [Location.mk "z" 9, ⟨"z", 10⟩, ⟨"é", 2⟩].Perm [⟨"é", 2⟩, ⟨"z", 10⟩, ⟨"z", 9⟩] ∧
    [Location.mk "z" 9, ⟨"z", 10⟩, ⟨"é", 2⟩].Pairwise (fun a b => (compare a b).isLE) ∧
    [Location.mk "z" 9, ⟨"z", 10⟩, ⟨"é", 2⟩] = sorted [⟨"é", 2⟩, ⟨"z", 10⟩, ⟨"z", 9⟩] := by
  have hperm : [Location.mk "z" 9, ⟨"z", 10⟩, ⟨"é", 2⟩].Perm
      [⟨"é", 2⟩, ⟨"z", 10⟩, ⟨"z", 9⟩] := by decide
  have hascends : [Location.mk "z" 9, ⟨"z", 10⟩, ⟨"é", 2⟩].Pairwise
      fun a b => (compare a b).isLE := by decide
  exact ⟨hperm, hascends, sorting_canonical.2.2.unique _ _ hperm hascends⟩

end Rulebook
