import Mathlib.Algebra.Order.BigOperators.Group.List
import Mathlib.Algebra.Order.Ring.Int
import Mathlib.Algebra.Order.Ring.Nat
import Rulebook.Formula.Bounds
import Rulebook.Proofs.Formula.Printed
import Rulebook.Proofs.Outcome

/-!
# What a formula can come to

The dice of a formula show faces, one for each die, and each die whatever the others show. The
bounds of a formula are the lowest and the highest total that this can give.

* `Term.Shows`, `Formula.Shows`: the faces that the dice of a term, and of all terms, may show.
* `Term.total`, `Formula.total`: what they come to, in integers without a limit.
* `Interval.Spans`: an interval has all totals, and its ends are two of them.
* `Term.range`: the ends of the totals of one term, as `range_spans` says. `term_spans`: they are its
  bounds. `addTerm_step`: what one more term adds.
* `foldlM_spans`: what all terms add, from any totals before them.
* `bounds_tight`: **the bounds of a formula are the ends of its totals**, and no number on the way
  to them is out of range.
-/

namespace Rulebook

/-- A number with a sign in front of it. -/
def Sign.apply : Sign → Int → Int
  | plus, n => n
  | minus, n => -n

namespace Term

/-- **The faces that the dice of a term may show**: a side for each die. Other terms than rolls have
no dice. -/
def Shows : Term → List Nat → Prop
  | dice r, faces => faces.length = r.count.toNat ∧ ∀ x ∈ faces, 1 ≤ x ∧ x ≤ r.sides.toNat
  | flat _, faces => faces = []
  | symbol _, faces => faces = []

/-- **The lowest and the highest that a term can come to**, in integers without a limit. As in the
totals, a symbol that is not bound counts as 0. -/
def range (b : Bindings) : Term → Interval
  | dice r => ⟨r.count.toNat * r.factor.toNat, r.count.toNat * r.sides.toNat * r.factor.toNat⟩
  | flat n => ⟨n.toNat, n.toNat⟩
  | symbol s => ⟨((b.get? s).getD 0).toInt, ((b.get? s).getD 0).toInt⟩

/-- What a term comes to: the faces of a roll are added up before its factor is applied. -/
def total (b : Bindings) : Term → List Nat → Int
  | dice r, faces => faces.sum * r.factor.toNat
  | flat n, _ => n.toNat
  | symbol s, _ => ((b.get? s).getD 0).toInt

end Term

namespace Formula

/-- **The faces that the dice of some terms may show**, term by term. -/
def Shows (terms : List SignedTerm) (faces : List (List Nat)) : Prop :=
  List.Forall₂ (fun t shown => t.term.Shows shown) terms faces

/-- **What some terms come to**: the sum over the terms, with their signs. -/
def total (b : Bindings) : List SignedTerm → List (List Nat) → Int
  | t :: terms, shown :: faces => t.sign.apply (t.term.total b shown) + total b terms faces
  | _, _ => 0

end Formula

/-- **An interval that has all totals**, over some choices, and whose ends are two of them. -/
structure Interval.Spans {α : Type} (i : Interval) (Choice : α → Prop) (total : α → Int) :
    Prop where
  within : ∀ a, Choice a → i.low ≤ total a ∧ total a ≤ i.high
  lowest : ∃ a, Choice a ∧ total a = i.low
  highest : ∃ a, Choice a ∧ total a = i.high

namespace Interval

/-- An interval with a sign in front of it. The sign swaps the ends. -/
def signed : Sign → Interval → Interval
  | .plus, i => i
  | .minus, i => ⟨-i.high, -i.low⟩

theorem join_low (i j : Interval) (sign : Sign) :
    (i.join sign j).low = i.low + (j.signed sign).low := by
  cases sign
  · rfl
  · exact Int.sub_eq_add_neg

theorem join_high (i j : Interval) (sign : Sign) :
    (i.join sign j).high = i.high + (j.signed sign).high := by
  cases sign
  · rfl
  · exact Int.sub_eq_add_neg

namespace Spans

variable {α : Type} {i : Interval} {Choice : α → Prop} {total : α → Int}

/-- There is a choice, so that the ends are in order. -/
theorem ordered (h : i.Spans Choice total) : i.low ≤ i.high := by
  obtain ⟨a, ha, hlow⟩ := h.lowest
  rw [← hlow]
  exact (h.within a ha).2

theorem signed (sign : Sign) (h : i.Spans Choice total) :
    (i.signed sign).Spans Choice fun a => sign.apply (total a) := by
  cases sign with
  | plus => exact h
  | minus =>
    obtain ⟨a, ha, hlow⟩ := h.lowest
    obtain ⟨b, hb, hhigh⟩ := h.highest
    refine ⟨fun x hx => ?_, ⟨b, hb, congrArg Neg.neg hhigh⟩, ⟨a, ha, congrArg Neg.neg hlow⟩⟩
    obtain ⟨h1, h2⟩ := h.within x hx
    exact ⟨Int.neg_le_neg h2, Int.neg_le_neg h1⟩

end Spans

end Interval

/-! ## One term -/

theorem fitting_eq_ok {n m : Int} : fitting n = .ok m ↔ fits n = true ∧ n = m := by
  unfold fitting
  by_cases h : fits n = true <;> simp [h]

/-- What lies between two numbers that fit in 64 bits fits as well. -/
theorem fits_between {low n high : Int} (hlow : fits low = true) (hhigh : fits high = true)
    (h : low ≤ n ∧ n ≤ high) : fits n = true := by
  simp only [fits, Bool.and_eq_true, decide_eq_true_eq] at *
  omega

/-- Dice that show at least 1 and at most their number of sides add up to something in between. -/
theorem sum_between {faces : List Nat} {sides : Nat} (h : ∀ x ∈ faces, 1 ≤ x ∧ x ≤ sides) :
    faces.length ≤ faces.sum ∧ faces.sum ≤ faces.length * sides := by
  induction faces with
  | nil => simp
  | cons x faces ih =>
    obtain ⟨hx, hfaces⟩ := List.forall_mem_cons.1 h
    obtain ⟨h1, h2⟩ := ih hfaces
    rw [List.sum_cons, List.length_cons, Nat.succ_mul]
    omega

/-- The products that the bounds of a roll are made of. -/
theorem roll_bounds_eq_ok {r : Roll} {i : Interval} (h : r.bounds = .ok i) :
    (fits (r.count.toNat * r.factor.toNat) = true ∧ fits (r.count.toNat * r.sides.toNat) = true ∧
      fits (r.count.toNat * r.sides.toNat * r.factor.toNat) = true) ∧
    i = ⟨r.count.toNat * r.factor.toNat, r.count.toNat * r.sides.toNat * r.factor.toNat⟩ := by
  obtain ⟨low, hl, h⟩ := bind_eq_ok h
  obtain ⟨dice, hd, h⟩ := bind_eq_ok h
  obtain ⟨high, hh, h⟩ := bind_eq_ok h
  obtain ⟨hlow, rfl⟩ := fitting_eq_ok.1 hl
  obtain ⟨hdice, rfl⟩ := fitting_eq_ok.1 hd
  obtain ⟨hhigh, rfl⟩ := fitting_eq_ok.1 hh
  cases h
  exact ⟨⟨hlow, hdice, hhigh⟩, rfl⟩

/-- Dice that all show the same side. -/
theorem shows_replicate {r : Roll} {x : Nat} (h : 1 ≤ x ∧ x ≤ r.sides.toNat) :
    (Term.dice r).Shows (List.replicate r.count.toNat x) := by
  refine ⟨List.length_replicate, fun y hy => ?_⟩
  rw [List.eq_of_mem_replicate hy]
  exact h

/-- **The range of a roll**: all dice show 1, or all show their number of sides. -/
theorem roll_spans {b : Bindings} {r : Roll} (hsides : 1 ≤ r.sides) :
    ((Term.dice r).range b).Spans (Term.dice r).Shows ((Term.dice r).total b) := by
  have hsides : 1 ≤ r.sides.toNat := UInt32.le_iff_toNat_le.1 hsides
  refine ⟨?_, ?_, ?_⟩
  · rintro faces ⟨hlength, hfaces⟩
    obtain ⟨hlow, hhigh⟩ := sum_between hfaces
    rw [hlength] at hlow hhigh
    simp only [Term.total, Term.range]
    constructor
    · exact_mod_cast Nat.mul_le_mul_right r.factor.toNat hlow
    · exact_mod_cast Nat.mul_le_mul_right r.factor.toNat hhigh
  · refine ⟨_, shows_replicate ⟨le_rfl, hsides⟩, ?_⟩
    simp [Term.total, Term.range]
  · refine ⟨_, shows_replicate ⟨hsides, le_rfl⟩, ?_⟩
    simp [Term.total, Term.range]

/-- A term without dice has one total. -/
theorem spans_single {b : Bindings} {t : Term} (h : ∀ faces, t.Shows faces ↔ faces = []) :
    (⟨t.total b [], t.total b []⟩ : Interval).Spans t.Shows (t.total b) where
  within faces hfaces := by
    rw [(h faces).1 hfaces]
    exact ⟨le_rfl, le_rfl⟩
  lowest := ⟨[], (h []).2 rfl, rfl⟩
  highest := ⟨[], (h []).2 rfl, rfl⟩

/-- **The range of a term** has the ends of its totals. -/
theorem range_spans {b : Bindings} {t : Term} (hsides : ∀ r ∈ t.roll?, 1 ≤ r.sides) :
    (t.range b).Spans t.Shows (t.total b) := by
  cases t with
  | dice r => exact roll_spans (hsides r rfl)
  | flat n => exact spans_single (t := .flat n) fun _ => Iff.rfl
  | symbol s => exact spans_single (t := .symbol s) fun _ => Iff.rfl

/-- A term that has bounds has its range for them. -/
theorem eq_range_of_bounds {b : Bindings} {t : Term} {i : Interval} (h : t.bounds b = .ok i) :
    i = t.range b := by
  cases t with
  | dice r => exact (roll_bounds_eq_ok h).2
  | flat n => cases h; rfl
  | symbol s =>
    simp only [Term.bounds] at h
    cases hv : b.get? s with
    | none => rw [hv] at h; cases h
    | some v =>
      rw [hv] at h
      cases h
      simp [Term.range, hv]

/-- **The bounds of a term** are the ends of its totals. -/
theorem term_spans {b : Bindings} {t : Term} {i : Interval} (hsides : ∀ r ∈ t.roll?, 1 ≤ r.sides)
    (h : t.bounds b = .ok i) : i.Spans t.Shows (t.total b) := by
  rw [eq_range_of_bounds h]
  exact range_spans hsides

/-! ## All terms -/

namespace Formula

variable {b : Bindings}

/-- **What one more term does**: its bounds are put to those of the terms before it, and both ends
fit in 64 bits. -/
theorem addTerm_step {i j : Interval} {t : SignedTerm} (h : addTerm b i t = .ok j) :
    ∃ k, t.term.bounds b = .ok k ∧ j = i.join t.sign k ∧
      fits j.low = true ∧ fits j.high = true := by
  obtain ⟨k, hk, h⟩ := bind_eq_ok h
  obtain ⟨low, hl, h⟩ := bind_eq_ok h
  obtain ⟨high, hh, h⟩ := bind_eq_ok h
  obtain ⟨hlow, rfl⟩ := fitting_eq_ok.1 hl
  obtain ⟨hhigh, rfl⟩ := fitting_eq_ok.1 hh
  cases h
  exact ⟨k, hk, rfl, hlow, hhigh⟩

/-- The totals of a term and of the terms behind it add up. -/
theorem spans_cons {t : SignedTerm} {terms : List SignedTerm} {i j : Interval}
    (hi : i.Spans t.term.Shows fun shown => t.sign.apply (t.term.total b shown))
    (hj : j.Spans (Shows terms) (total b terms)) :
    (⟨i.low + j.low, i.high + j.high⟩ : Interval).Spans (Shows (t :: terms))
      (total b (t :: terms)) where
  within faces h := by
    obtain _ | ⟨hshown, hfaces⟩ := h
    obtain ⟨h1, h2⟩ := hi.within _ hshown
    obtain ⟨h3, h4⟩ := hj.within _ hfaces
    exact ⟨Int.add_le_add h1 h3, Int.add_le_add h2 h4⟩
  lowest := by
    obtain ⟨shown, hshown, hlow⟩ := hi.lowest
    obtain ⟨faces, hfaces, hlow'⟩ := hj.lowest
    exact ⟨shown :: faces, .cons hshown hfaces, congrArg₂ (· + ·) hlow hlow'⟩
  highest := by
    obtain ⟨shown, hshown, hhigh⟩ := hi.highest
    obtain ⟨faces, hfaces, hhigh'⟩ := hj.highest
    exact ⟨shown :: faces, .cons hshown hfaces, congrArg₂ (· + ·) hhigh hhigh'⟩

/-- **What some terms add** to the bounds of the terms before them are the ends of their totals. -/
theorem foldlM_spans {terms : List SignedTerm}
    (hsides : ∀ t ∈ terms, ∀ r ∈ t.term.roll?, 1 ≤ r.sides) {i j : Interval}
    (h : terms.foldlM (addTerm b) i = .ok j) :
    (⟨j.low - i.low, j.high - i.high⟩ : Interval).Spans (Shows terms) (total b terms) := by
  induction terms generalizing i with
  | nil =>
    cases h
    rw [Int.sub_self, Int.sub_self]
    refine ⟨?_, ⟨[], .nil, rfl⟩, ⟨[], .nil, rfl⟩⟩
    rintro faces ⟨⟩
    exact ⟨le_rfl, le_rfl⟩
  | cons t terms ih =>
    obtain ⟨hfirst, hrest⟩ := List.forall_mem_cons.1 hsides
    rw [List.foldlM_cons] at h
    obtain ⟨m, hm, h⟩ := bind_eq_ok h
    obtain ⟨k, hk, rfl, -, -⟩ := addTerm_step hm
    have hspans := spans_cons ((term_spans hfirst hk).signed t.sign) (ih hrest h)
    rw [Interval.join_low, Interval.join_high] at hspans
    -- what the term adds and what the others add is what all of them add
    have hlow : (k.signed t.sign).low + (j.low - (i.low + (k.signed t.sign).low)) =
        j.low - i.low := by omega
    have hhigh : (k.signed t.sign).high + (j.high - (i.high + (k.signed t.sign).high)) =
        j.high - i.high := by omega
    rwa [hlow, hhigh] at hspans

/-- The bounds on the way fit in 64 bits, if those of the start do. -/
theorem foldlM_fits {terms : List SignedTerm} {i j : Interval}
    (hi : fits i.low = true ∧ fits i.high = true) (h : terms.foldlM (addTerm b) i = .ok j) :
    fits j.low = true ∧ fits j.high = true := by
  induction terms generalizing i with
  | nil =>
    cases h
    exact hi
  | cons t terms ih =>
    rw [List.foldlM_cons] at h
    obtain ⟨m, hm, h⟩ := bind_eq_ok h
    obtain ⟨-, -, -, hfits⟩ := addTerm_step hm
    exact ih hfits h

/-- A formula with bounds has bounds for each of its terms. -/
theorem foldlM_term {terms : List SignedTerm} {i j : Interval}
    (h : terms.foldlM (addTerm b) i = .ok j) : ∀ t ∈ terms, ∃ k, t.term.bounds b = .ok k := by
  induction terms generalizing i with
  | nil => exact List.forall_mem_nil _
  | cons t terms ih =>
    rw [List.foldlM_cons] at h
    obtain ⟨m, hm, h⟩ := bind_eq_ok h
    obtain ⟨k, hk, -⟩ := addTerm_step hm
    exact List.forall_mem_cons.2 ⟨⟨k, hk⟩, ih h⟩

/-- **The bounds of a formula are exact**: every total is between them, and both are totals. Nothing
that is added up or multiplied on the way is out of range. -/
structure Bounded (f : Formula) (b : Bindings) (i : Interval) : Prop where
  ordered : i.low ≤ i.high
  within : ∀ faces, Shows f.terms faces →
    i.low ≤ total b f.terms faces ∧ total b f.terms faces ≤ i.high
  lowest : ∃ faces, Shows f.terms faces ∧ total b f.terms faces = i.low
  highest : ∃ faces, Shows f.terms faces ∧ total b f.terms faces = i.high
  products : ∀ r ∈ f.pools, fits (r.count.toNat * r.factor.toNat) = true ∧
    fits (r.count.toNat * r.sides.toNat) = true ∧
    fits (r.count.toNat * r.sides.toNat * r.factor.toNat) = true
  sums : ∀ terms faces, terms <+: f.terms → Shows terms faces → fits (total b terms faces) = true

/-- A roll of a formula is that of one of its terms. -/
theorem mem_pools_iff {f : Formula} {r : Roll} :
    r ∈ f.pools ↔ ∃ t ∈ f.terms, t.term = .dice r := by
  unfold pools
  rw [List.mem_filterMap]
  refine exists_congr fun t => and_congr_right fun _ => ?_
  cases t.term <;> simp [Term.roll?]

theorem sides_of_pools {f : Formula} (h : ∀ r ∈ f.pools, 1 ≤ r.sides) :
    ∀ t ∈ f.terms, ∀ r ∈ t.term.roll?, 1 ≤ r.sides := by
  intro t ht r hr
  exact h r (List.mem_filterMap.2 ⟨t, ht, hr⟩)

theorem bounded_of_bounds {f : Formula} {i : Interval} (hsides : ∀ r ∈ f.pools, 1 ≤ r.sides)
    (h : f.bounds b = .ok i) : f.Bounded b i := by
  have hterms := sides_of_pools hsides
  have hspans := foldlM_spans hterms h
  rw [Int.sub_zero, Int.sub_zero] at hspans
  refine ⟨hspans.ordered, hspans.within, hspans.lowest, hspans.highest, ?_, ?_⟩
  · intro r hr
    obtain ⟨t, ht, hterm⟩ := mem_pools_iff.1 hr
    obtain ⟨k, hk⟩ := foldlM_term h t ht
    rw [hterm] at hk
    exact (roll_bounds_eq_ok hk).1
  · -- the terms read so far have bounds of their own, which fit
    rintro terms faces ⟨rest, hrest⟩ hfaces
    unfold bounds at h
    rw [← hrest, List.foldlM_append] at h
    obtain ⟨j, hj, -⟩ := bind_eq_ok h
    have hspans := foldlM_spans
      (fun t ht => hterms t (hrest ▸ List.mem_append_left rest ht)) hj
    rw [Int.sub_zero, Int.sub_zero] at hspans
    obtain ⟨hlow, hhigh⟩ := foldlM_fits ⟨rfl, rfl⟩ hj
    exact fits_between hlow hhigh (hspans.within faces hfaces)

/-- **The bounds of a formula are the ends of its totals**, whatever its dice show and whatever its
symbols are bound to, if no die is without sides. In a formula that is read from a text none is. -/
theorem bounds_tight (b : Bindings) :
    (∀ (f : Formula) i, (∀ r ∈ f.pools, 1 ≤ r.sides) → f.bounds b = .ok i → f.Bounded b i) ∧
    ∀ (text : String) (f : Formula), parse text = .ok f → ∀ r ∈ f.pools, 1 ≤ r.sides := by
  refine ⟨fun f i hsides h => bounded_of_bounds hsides h, ?_⟩
  intro text f h r hr
  obtain ⟨t, ht, hterm⟩ := mem_pools_iff.1 hr
  have hpositive := (wellFormed_of_parse h).positive t ht r hterm
  exact UInt32.lt_iff_toNat_lt.1 hpositive.sides

/-- The rolls of a formula that is read from a text have sides. So its bounds are exact: with a
modifier of -2 the highest total is that of two sixes and a one. -/
theorem bounds_tight_surge :
    ∃ f, parse "2d6 × 3 - 1d4 + MOD" = .ok f ∧ (∀ r ∈ f.pools, 1 ≤ r.sides) ∧
      f.bounds ⟨some (-2)⟩ = .ok ⟨0, 33⟩ ∧ f.Bounded ⟨some (-2)⟩ ⟨0, 33⟩ ∧
      Shows f.terms [[6, 6], [1], []] ∧ total ⟨some (-2)⟩ f.terms [[6, 6], [1], []] = 33 := by
  have hparse : parse "2d6 × 3 - 1d4 + MOD" = .ok ⟨[⟨.plus, .dice ⟨2, 6, some 3⟩⟩,
      ⟨.minus, .dice ⟨1, 4, none⟩⟩, ⟨.plus, .symbol .modifier⟩]⟩ := by decide +kernel
  obtain ⟨hbounds, hsides⟩ := bounds_tight ⟨some (-2)⟩
  have hsides := hsides _ _ hparse
  refine ⟨_, hparse, hsides, by decide +kernel, hbounds _ _ hsides (by decide +kernel), ?_, rfl⟩
  exact .cons ⟨rfl, by decide⟩ (.cons ⟨rfl, by decide⟩ (.cons rfl .nil))

end Formula

end Rulebook
