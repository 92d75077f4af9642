/-!
# Dice formulas

A formula is a list of signed terms, kept in the order they were written and never merged:
`4d6 + 4d6` stays two pools.

* `Roll`, `Symbol`, `Term`, `SignedTerm`, `Formula`: the parts of a formula.
* `Formula.text`: a formula as it is written.
* `Formula.pools`, `Formula.symbols`: the rolls and the symbols of a formula, in order.
-/

namespace Rulebook

/-- The sign that joins a term to the terms before it. -/
inductive Sign where
  | plus
  | minus
  deriving DecidableEq, Repr

/-- A value that is bound when the formula is used. -/
inductive Symbol where
  /-- The ability modifier of the caster. -/
  | modifier
  deriving DecidableEq, Repr

/-- `count` dice of `sides` sides each, and possibly a factor for the total of the roll. -/
structure Roll where
  count : UInt32
  sides : UInt32
  multiplier : Option UInt32 := none
  deriving DecidableEq, Repr

/-- One operand of a formula. -/
inductive Term where
  | dice (roll : Roll)
  | flat (n : UInt32)
  | symbol (s : Symbol)
  deriving DecidableEq, Repr

/-- A term and the sign in front of it. -/
structure SignedTerm where
  sign : Sign
  term : Term
  deriving DecidableEq, Repr

/-- A sum of signed terms. -/
structure Formula where
  terms : List SignedTerm
  deriving DecidableEq, Repr

namespace Symbol

/-- The name of a symbol in a formula. -/
def name : Symbol → String
  | modifier => "MOD"

/-- The symbol of a name. -/
def ofName? (name : String) : Option Symbol :=
  if name = "MOD" then some modifier else none

@[simp] theorem ofName?_name (s : Symbol) : ofName? s.name = some s := by cases s; rfl

theorem name_of_ofName? {n : String} {s : Symbol} (h : ofName? n = some s) : s.name = n := by
  unfold ofName? at h
  split at h
  · next hn => cases h; exact hn.symm
  · cases h

end Symbol

namespace Roll

/-- The factor of a roll, 1 if none is written. -/
def factor (r : Roll) : UInt32 := r.multiplier.getD 1

/-- A roll as it is written. -/
def text (r : Roll) : String :=
  match r.multiplier with
  | none => s!"{r.count.toNat}d{r.sides.toNat}"
  | some m => s!"{r.count.toNat}d{r.sides.toNat} × {m.toNat}"

end Roll

namespace Term

/-- A term as it is written. -/
def text : Term → String
  | dice r => r.text
  | flat n => s!"{n.toNat}"
  | symbol s => s.name

/-- The roll of a term that is one. -/
def roll? : Term → Option Roll
  | dice r => some r
  | _ => none

/-- The symbol of a term that is one. -/
def symbol? : Term → Option Symbol
  | symbol s => some s
  | _ => none

end Term

/-- A sign as it stands in front of every term but the first. -/
def Sign.text : Sign → String
  | plus => " + "
  | minus => " - "

/-- A term behind other terms, as it is written. -/
def SignedTerm.text (t : SignedTerm) : String := t.sign.text ++ t.term.text

namespace Formula

/-- A formula as it is written. The sign of the first term is not. -/
def text (f : Formula) : String :=
  match f.terms with
  | [] => ""
  | t :: ts => t.term.text ++ String.join (ts.map SignedTerm.text)

/-- The rolls of a formula, in order. -/
def pools (f : Formula) : List Roll := f.terms.filterMap (·.term.roll?)

/-- The symbols of a formula, in order, each as often as it is used. -/
def symbols (f : Formula) : List Symbol := f.terms.filterMap (·.term.symbol?)

end Formula

end Rulebook
