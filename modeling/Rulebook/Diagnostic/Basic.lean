import Rulebook.Reference.Basic

/-!
# Diagnostics

A diagnostic is one problem in one field of one entry.

* `Severity`, `DiagnosticKind`: how bad a problem is, and what kind of problem it is.
* `Finding`: a problem in a field, without the entry.
* `Diagnostic`: a finding with its entry.
* `compare` on diagnostics: by collection, id, field, severity, kind and message.
-/

namespace Rulebook

open Std

/-- How bad a problem is. -/
inductive Severity where
  | error
  | warning
  deriving DecidableEq, Repr

namespace Severity

/-- The name of a severity. -/
def name : Severity → String
  | error => "error"
  | warning => "warning"

/-- The severity of a name. -/
def ofName? (name : String) : Option Severity := [error, warning].find? (·.name = name)

/-- The rank of a severity. Errors come first. -/
def rank : Severity → Nat
  | error => 0
  | warning => 1

instance : Ord Severity := ⟨compareOn rank⟩

instance : TransOrd Severity := inferInstanceAs (TransCmp (compareOn rank))

instance : LawfulEqOrd Severity where
  eq_of_compare {a b} h := by
    have : a.rank = b.rank := LawfulEqOrd.eq_of_compare h
    cases a <;> cases b <;> simp_all [rank]

end Severity

/-- The kind of a problem. -/
inductive DiagnosticKind where
  /-- A malformed formula or template. -/
  | parse
  /-- A reference to an entry that is not registered. -/
  | danglingReference
  /-- A reference into a collection that the field does not accept. -/
  | wrongCollection
  /-- An id that is registered twice in one collection. -/
  | duplicateId
  /-- An entry that breaks a structural rule. -/
  | structural
  deriving DecidableEq, Repr

namespace DiagnosticKind

/-- All kinds, in order. -/
def all : List DiagnosticKind :=
  [parse, danglingReference, wrongCollection, duplicateId, structural]

/-- The kind as it is written in messages. -/
def label : DiagnosticKind → String
  | parse => "parse"
  | danglingReference => "dangling-reference"
  | wrongCollection => "wrong-collection"
  | duplicateId => "duplicate-id"
  | structural => "structural"

/-- The kind as it is written in data. -/
def name : DiagnosticKind → String
  | parse => "parse"
  | danglingReference => "danglingReference"
  | wrongCollection => "wrongCollection"
  | duplicateId => "duplicateId"
  | structural => "structuralInvariant"

/-- The kind of a name. -/
def ofName? (name : String) : Option DiagnosticKind := all.find? (·.name = name)

/-- The position of a kind among all of them. -/
def rank : DiagnosticKind → Nat
  | parse => 0
  | danglingReference => 1
  | wrongCollection => 2
  | duplicateId => 3
  | structural => 4

instance : Ord DiagnosticKind := ⟨compareOn rank⟩

instance : TransOrd DiagnosticKind := inferInstanceAs (TransCmp (compareOn rank))

instance : LawfulEqOrd DiagnosticKind where
  eq_of_compare {a b} h := by
    have : a.rank = b.rank := LawfulEqOrd.eq_of_compare h
    cases a <;> cases b <;> simp_all [rank]

end DiagnosticKind

/-- A problem in a field of some entry. -/
structure Finding where
  field : String
  severity : Severity
  kind : DiagnosticKind
  message : String
  deriving DecidableEq, Repr

/-- A problem in a field of an entry. -/
structure Diagnostic where
  collection : Collection
  id : String
  field : String
  severity : Severity
  kind : DiagnosticKind
  message : String
  deriving DecidableEq, Repr

/-- The finding as a problem of an entry. -/
def Finding.at (f : Finding) (c : Collection) (id : String) : Diagnostic :=
  ⟨c, id, f.field, f.severity, f.kind, f.message⟩

namespace Diagnostic

/-- Whether the problem is an error. -/
def isError (d : Diagnostic) : Bool := d.severity = .error

/-- A diagnostic in one line. -/
def text (d : Diagnostic) : String :=
  s!"{d.severity.name}[{d.kind.label}] {d.collection.name}/{d.id} {d.field}: {d.message}"

/-- The order of diagnostics: by the place first, so that a sorted list reads entry by entry. -/
def order : Diagnostic → Diagnostic → Ordering :=
  compareLex (compareOn collection) <| compareLex (compareOn id) <| compareLex (compareOn field) <|
    compareLex (compareOn severity) <| compareLex (compareOn kind) (compareOn message)

instance : TransCmp order := inferInstanceAs <| TransCmp <|
  compareLex (compareOn collection) <| compareLex (compareOn id) <| compareLex (compareOn field) <|
    compareLex (compareOn severity) <| compareLex (compareOn kind) (compareOn message)

instance : Ord Diagnostic := ⟨order⟩

instance : TransOrd Diagnostic := inferInstanceAs (TransCmp order)

instance : LawfulEqOrd Diagnostic where
  eq_of_compare {a b} h := by
    obtain ⟨hc, h⟩ := compareLex_eq_eq.1 h
    obtain ⟨hi, h⟩ := compareLex_eq_eq.1 h
    obtain ⟨hf, h⟩ := compareLex_eq_eq.1 h
    obtain ⟨hs, h⟩ := compareLex_eq_eq.1 h
    obtain ⟨hk, hm⟩ := compareLex_eq_eq.1 h
    have hc : a.collection = b.collection := LawfulEqOrd.eq_of_compare hc
    have hi : a.id = b.id := LawfulEqOrd.eq_of_compare hi
    have hf : a.field = b.field := LawfulEqOrd.eq_of_compare hf
    have hs : a.severity = b.severity := LawfulEqOrd.eq_of_compare hs
    have hk : a.kind = b.kind := LawfulEqOrd.eq_of_compare hk
    have hm : a.message = b.message := LawfulEqOrd.eq_of_compare hm
    cases a
    cases b
    simp_all

end Diagnostic

end Rulebook
