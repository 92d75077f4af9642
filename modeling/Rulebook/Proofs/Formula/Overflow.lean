import Rulebook.Proofs.Formula.Totals

/-!
# Formulas without totals

The totals of a formula are added up term by term, from the left, in 64 bits with sign. Which of them
are refused is said here by the same walk in integers without a limit.

* `Formula.range`: the lowest and the highest total of some terms.
* `Refused`: why a term cannot be added to those before it. `addTerm_range`: what one step does.
* `foldlM_eq_error_iff`: **a walk over some terms ends at the first that is refused.**
* `Term.Peaks`: the largest absolute value of a term. `peaks_range`: every positive term has one.
  `bounds_of_peaks`: a formula has totals if these add up to what fits in 64 bits.
* `foldlM_average`: no other error can come up where the expected total is added up.
* `bounds_refused`: **a formula is refused exactly where the walk ends**, and in no other order of its
  terms if their largest values fit together.
-/

namespace Rulebook

/-- An integer that does not fit in 64 bits with sign. -/
def Overflows (n : Int) : Prop := n < -2 ^ 63 ∨ 2 ^ 63 ≤ n

theorem fits_iff {n : Int} : fits n = true ↔ ¬ Overflows n := by
  have hmin : Int64.minValue.toInt = -2 ^ 63 := by decide
  have hmax : Int64.maxValue.toInt = 2 ^ 63 - 1 := by decide
  unfold fits Overflows
  rw [hmin, hmax, Bool.and_eq_true, decide_eq_true_eq, decide_eq_true_eq]
  omega

theorem fitting_of_fits {n : Int} (h : fits n = true) : fitting n = .ok n := if_pos h

theorem fitting_eq_error {n : Int} {e : EvalError} (h : fitting n = .error e) :
    e = .overflow ∧ Overflows n := by
  unfold fitting at h
  split at h
  · cases h
  · next hn =>
    cases h
    exact ⟨rfl, not_not.1 (mt fits_iff.2 hn)⟩

/-- The cases of an interval whose ends have to fit. -/
theorem Interval.fitting_cases (i : Interval) :
    (fits i.low = true ∧ fits i.high = true ∧ i.fitting = .ok i) ∨
      ((Overflows i.low ∨ Overflows i.high) ∧ i.fitting = .error .overflow) := by
  unfold Interval.fitting
  by_cases hlow : fits i.low = true
  · rw [fitting_of_fits hlow]
    by_cases hhigh : fits i.high = true
    · rw [fitting_of_fits hhigh]
      exact .inl ⟨hlow, hhigh, rfl⟩
    · refine .inr ⟨.inr (not_not.1 (mt fits_iff.2 hhigh)), ?_⟩
      rw [Rulebook.fitting, if_neg hhigh]
      rfl
  · refine .inr ⟨.inl (not_not.1 (mt fits_iff.2 hlow)), ?_⟩
    rw [Rulebook.fitting, if_neg hlow]
    rfl

/-! ## One term -/

/-- **Why a term has no bounds of its own.** -/
inductive Term.Fails (b : Bindings) : Term → EvalError → Prop
  | unbound {s : Symbol} (free : b.get? s = none) : Fails b (.symbol s) (.unbound s)
  | product {r : Roll} (large : 2 ^ 63 ≤ r.count.toNat * r.sides.toNat * r.factor.toNat) :
      Fails b (.dice r) .overflow

/-- **The largest absolute value of a term**: none of its totals has a larger one, and one of them
has this one. -/
structure Term.Peaks (b : Bindings) (t : Term) (m : Nat) : Prop where
  within : ∀ faces, t.Shows faces → (t.total b faces).natAbs ≤ m
  attained : ∃ faces, t.Shows faces ∧ (t.total b faces).natAbs = m

theorem Roll.Positive.factor {r : Roll} (h : r.Positive) : 0 < r.factor.toNat := by
  have hfactor : 0 < r.factor := by
    unfold Roll.factor
    cases hm : r.multiplier with
    | none => exact show (0 : UInt32) < 1 by decide
    | some m => exact h.multiplier m hm
  exact UInt32.lt_iff_toNat_lt.1 hfactor

/-- In a positive roll the highest total is the largest of all products. -/
theorem roll_bounds_of_lt {r : Roll} (h : r.Positive)
    (hlt : r.count.toNat * r.sides.toNat * r.factor.toNat < 2 ^ 63) :
    ∃ i, r.bounds = .ok i := by
  have hsides : 0 < r.sides.toNat := UInt32.lt_iff_toNat_lt.1 h.sides
  have hdice : r.count.toNat * r.sides.toNat ≤
      r.count.toNat * r.sides.toNat * r.factor.toNat := Nat.le_mul_of_pos_right _ h.factor
  have hlow : r.count.toNat * r.factor.toNat ≤
      r.count.toNat * r.sides.toNat * r.factor.toNat :=
    Nat.mul_le_mul_right _ (Nat.le_mul_of_pos_right _ hsides)
  have hfits : ∀ n : Nat, n ≤ r.count.toNat * r.sides.toNat * r.factor.toNat →
      fits (n : Int) = true := by
    intro n hn
    rw [fits_iff, Overflows]
    omega
  refine ⟨⟨r.count.toNat * r.factor.toNat, r.count.toNat * r.sides.toNat * r.factor.toNat⟩, ?_⟩
  have hlow : fitting (r.count.toNat * r.factor.toNat) = .ok _ :=
    fitting_of_fits (by exact_mod_cast hfits _ hlow)
  have hdice : fitting (r.count.toNat * r.sides.toNat) = .ok _ :=
    fitting_of_fits (by exact_mod_cast hfits _ hdice)
  have hhigh : fitting (r.count.toNat * r.sides.toNat * r.factor.toNat) = .ok _ :=
    fitting_of_fits (by exact_mod_cast hfits _ le_rfl)
  simp only [Roll.bounds, hlow, hdice]
  show (fitting _ >>= _) = _
  rw [hhigh]
  rfl

/-- The bounds of a roll have one error only. -/
theorem roll_bounds_eq_error {r : Roll} {e : EvalError} (h : r.bounds = .error e) :
    e = .overflow := by
  rcases bind_eq_error h with h | ⟨low, -, h⟩
  · exact (fitting_eq_error h).1
  rcases bind_eq_error h with h | ⟨dice, -, h⟩
  · exact (fitting_eq_error h).1
  rcases bind_eq_error h with h | ⟨high, -, h⟩
  · exact (fitting_eq_error h).1
  · cases h

/-- **The terms without bounds**, each with its error. -/
theorem term_bounds_eq_error_iff {b : Bindings} {t : Term} (hpos : t.Positive) {e : EvalError} :
    t.bounds b = .error e ↔ t.Fails b e := by
  cases t with
  | flat n =>
    constructor
    · intro h
      cases h
    · intro h
      cases h
  | dice r =>
    have hroll := hpos r rfl
    constructor
    · intro h
      rw [roll_bounds_eq_error h]
      by_contra hfails
      obtain ⟨i, hi⟩ := roll_bounds_of_lt hroll (Nat.lt_of_not_le fun hle => hfails (.product hle))
      rw [show (Term.dice r).bounds b = r.bounds from rfl, hi] at h
      cases h
    · intro h
      cases h with
      | product hlarge =>
        show r.bounds = _
        cases hbounds : r.bounds with
        | error e => rw [roll_bounds_eq_error hbounds]
        | ok i =>
          have hfits := (roll_bounds_eq_ok hbounds).1.2.2
          rw [fits_iff, Overflows] at hfits
          exact absurd (.inr (by exact_mod_cast hlarge)) hfits
  | symbol s =>
    cases hv : b.get? s with
    | none =>
      rw [show (Term.symbol s).bounds b = .error (.unbound s) by rw [Term.bounds, hv]]
      constructor
      · intro h
        cases h
        exact .unbound hv
      · intro h
        cases h
        rfl
    | some v =>
      rw [show (Term.symbol s).bounds b = .ok ⟨v.toInt, v.toInt⟩ by rw [Term.bounds, hv]]
      constructor
      · intro h
        cases h
      · intro h
        cases h with
        | unbound hfree =>
          rw [hv] at hfree
          cases hfree

theorem Term.Positive.sides {t : Term} (h : t.Positive) : ∀ r ∈ t.roll?, 1 ≤ r.sides := by
  intro r hr
  cases t with
  | dice r' =>
    cases hr
    exact UInt32.lt_iff_toNat_lt.1 (h r rfl).sides
  | flat n => cases hr
  | symbol s => cases hr

/-- Both ends of the range of a term are totals of it, and a sign does not change absolute values. -/
theorem Term.Peaks.signed {b : Bindings} {t : Term} {m : Nat} (hpos : t.Positive)
    (h : t.Peaks b m) (sign : Sign) :
    ((t.range b).signed sign).low.natAbs ≤ m ∧ ((t.range b).signed sign).high.natAbs ≤ m := by
  have hspans := range_spans (b := b) hpos.sides
  obtain ⟨low, hlow, hl⟩ := hspans.lowest
  obtain ⟨high, hhigh, hh⟩ := hspans.highest
  have hlow := hl ▸ h.within low hlow
  have hhigh := hh ▸ h.within high hhigh
  cases sign with
  | plus => exact ⟨hlow, hhigh⟩
  | minus => simpa [Interval.signed] using ⟨hhigh, hlow⟩

/-- **Every positive term has a largest absolute value**: that of one end of its range. -/
theorem peaks_range {b : Bindings} {t : Term} (hpos : t.Positive) :
    t.Peaks b (max (t.range b).low.natAbs (t.range b).high.natAbs) := by
  have hspans := range_spans (b := b) hpos.sides
  refine ⟨fun faces hfaces => ?_, ?_⟩
  · obtain ⟨hlow, hhigh⟩ := hspans.within faces hfaces
    omega
  · obtain ⟨low, hlow, hl⟩ := hspans.lowest
    obtain ⟨high, hhigh, hh⟩ := hspans.highest
    rcases le_total (t.range b).low.natAbs (t.range b).high.natAbs with h | h
    · exact ⟨high, hhigh, by rw [hh, max_eq_right h]⟩
    · exact ⟨low, hlow, by rw [hl, max_eq_left h]⟩

/-! ## All terms -/

namespace Formula

variable {b : Bindings}

/-- **The lowest and the highest total of some terms**, in integers without a limit: each term adds
its range, with its sign. -/
def range (b : Bindings) (terms : List SignedTerm) : Interval :=
  ⟨(terms.map fun t => ((t.term.range b).signed t.sign).low).sum,
    (terms.map fun t => ((t.term.range b).signed t.sign).high).sum⟩

theorem range_concat (b : Bindings) (before : List SignedTerm) (t : SignedTerm) :
    range b (before ++ [t]) = (range b before).join t.sign (t.term.range b) := by
  have hlow := Interval.join_low (range b before) (t.term.range b) t.sign
  have hhigh := Interval.join_high (range b before) (t.term.range b) t.sign
  cases hjoin : (range b before).join t.sign (t.term.range b) with
  | mk low high =>
    rw [hjoin] at hlow hhigh
    simp only at hlow hhigh
    rw [hlow, hhigh]
    simp [range]

/-- **Why a term cannot be added** to the terms before it: it has no bounds, or the lowest or the
highest total is then out of range. -/
inductive Refused (b : Bindings) (before : List SignedTerm) (t : SignedTerm) : EvalError → Prop
  | term {e : EvalError} (fails : t.term.Fails b e) : Refused b before t e
  | low (outside : Overflows (range b (before ++ [t])).low) : Refused b before t .overflow
  | high (outside : Overflows (range b (before ++ [t])).high) : Refused b before t .overflow

/-- A range of terms that fits in 64 bits. -/
def Fits (b : Bindings) (terms : List SignedTerm) : Prop :=
  fits (range b terms).low = true ∧ fits (range b terms).high = true

/-- **What one step does**: the term is refused, or the totals are those with the term. -/
theorem addTerm_range {before : List SignedTerm} {t : SignedTerm} (hpos : t.term.Positive)
    (hfits : Fits b before) :
    ((∀ e, ¬ Refused b before t e) ∧ Fits b (before ++ [t]) ∧
        addTerm b (range b before) t = .ok (range b (before ++ [t]))) ∨
      ∃ e, addTerm b (range b before) t = .error e ∧ ∀ e', Refused b before t e' ↔ e' = e := by
  unfold addTerm
  cases hbounds : t.term.bounds b with
  | error e =>
    have hfails := (term_bounds_eq_error_iff hpos).1 hbounds
    refine .inr ⟨e, rfl, fun e' => ⟨?_, fun he => he ▸ .term hfails⟩⟩
    -- a symbol that is not bound leaves the totals as they are, so that they still fit
    have hoverflow : Overflows (range b (before ++ [t])).low ∨
        Overflows (range b (before ++ [t])).high → EvalError.overflow = e := by
      intro h
      generalize hterm : t.term = x at hfails
      cases hfails with
      | product => rfl
      | @unbound s free =>
        have hrange : t.term.range b = ⟨0, 0⟩ := by rw [hterm, Term.range, free]; rfl
        have hsame : range b (before ++ [t]) = range b before := by
          rw [range_concat, hrange]
          cases t.sign <;> simp [Interval.join]
        rw [hsame] at h
        rcases h with h | h
        · exact absurd h (fits_iff.1 hfits.1)
        · exact absurd h (fits_iff.1 hfits.2)
    intro h
    cases h with
    | term hfails' =>
      rw [(term_bounds_eq_error_iff hpos).2 hfails'] at hbounds
      cases hbounds
      rfl
    | low h => exact hoverflow (.inl h)
    | high h => exact hoverflow (.inr h)
  | ok k =>
    have hok : ∀ e, ¬ t.term.Fails b e := by
      intro e he
      rw [(term_bounds_eq_error_iff hpos).2 he] at hbounds
      cases hbounds
    cases eq_range_of_bounds hbounds
    show (_ ∧ _ ∧ ((range b before).join t.sign (t.term.range b)).fitting = _) ∨
      ∃ e, ((range b before).join t.sign (t.term.range b)).fitting = _ ∧ _
    rw [← range_concat]
    rcases Interval.fitting_cases (range b (before ++ [t])) with ⟨hlow, hhigh, h⟩ | ⟨hout, h⟩
    · refine .inl ⟨?_, ⟨hlow, hhigh⟩, h⟩
      intro e he
      cases he with
      | term hfails => exact hok e hfails
      | low hlow' => exact fits_iff.1 hlow hlow'
      | high hhigh' => exact fits_iff.1 hhigh hhigh'
    · refine .inr ⟨_, h, fun e => ⟨?_, ?_⟩⟩
      · intro he
        cases he with
        | term hfails => exact absurd hfails (hok e)
        | low => rfl
        | high => rfl
      · rintro rfl
        exact hout.elim .low .high

/-- **The term at an index is refused** behind the terms before it. -/
def RefusedAt (b : Bindings) (terms : List SignedTerm) (n : Nat) (e : EvalError) : Prop :=
  ∃ t, terms[n]? = some t ∧ Refused b (terms.take n) t e

theorem refusedAt_first {before terms : List SignedTerm} {t : SignedTerm} {e : EvalError} :
    RefusedAt b (before ++ t :: terms) before.length e ↔ Refused b before t e := by
  simp [RefusedAt]

theorem refusedAt_behind (b : Bindings) (before terms : List SignedTerm) (t : SignedTerm) :
    (fun n => RefusedAt b (before ++ t :: terms) (before.length + (n + 1))) =
      fun n => RefusedAt b (before ++ [t] ++ terms) ((before ++ [t]).length + n) := by
  funext n
  rw [List.append_assoc, List.singleton_append, List.length_append, List.length_singleton,
    Nat.add_comm n, Nat.add_assoc]

/-- **A walk over some terms ends at the first that is refused.** -/
theorem foldlM_eq_error_iff {before terms : List SignedTerm}
    (hpos : ∀ t ∈ terms, t.term.Positive) (hfits : Fits b before) {e : EvalError} :
    terms.foldlM (addTerm b) (range b before) = .error e ↔
      FirstError (fun n => RefusedAt b (before ++ terms) (before.length + n)) e := by
  -- on the terms that are left; the range of those that were passed fits
  induction terms generalizing before with
  | nil =>
    refine ⟨nofun, ?_⟩
    rintro ⟨n, ⟨t, ht, -⟩, -⟩
    simp at ht
  | cons t terms ih =>
    obtain ⟨ht, hterms⟩ := List.forall_mem_cons.1 hpos
    rw [List.foldlM_cons, firstError_iff, refusedAt_behind]
    simp only [Nat.add_zero, refusedAt_first]
    rcases addTerm_range ht hfits with ⟨hgood, hfits', hok⟩ | ⟨e', herror, hrefused⟩
    · rw [hok]
      refine (ih hterms hfits').trans ⟨fun h => .inr ⟨hgood, h⟩, ?_⟩
      rintro (h | ⟨-, h⟩)
      · exact absurd h (hgood e)
      · exact h
    · rw [herror]
      constructor
      · intro h
        cases h
        exact .inl ((hrefused e).2 rfl)
      · rintro (h | ⟨hnone, -⟩)
        · rw [(hrefused e).1 h]
          rfl
        · exact absurd ((hrefused e').2 rfl) (hnone e')

/-- **A formula is refused at the first term that is.** -/
theorem bounds_eq_error_iff {f : Formula} (hpos : ∀ t ∈ f.terms, t.term.Positive) {e : EvalError} :
    f.bounds b = .error e ↔ FirstError (RefusedAt b f.terms) e := by
  have hwalk : f.bounds b = .error e ↔ _ :=
    foldlM_eq_error_iff hpos (show Fits b [] from ⟨rfl, rfl⟩)
  simpa only [List.nil_append, List.length_nil, Nat.zero_add] using hwalk

/-! ## Terms that fit together -/

/-- No total of some terms is larger than their largest absolute values together. -/
theorem natAbs_range_le {peak : Term → Nat} {terms : List SignedTerm}
    (hpos : ∀ t ∈ terms, t.term.Positive) (hpeak : ∀ t ∈ terms, t.term.Peaks b (peak t.term)) :
    (range b terms).low.natAbs ≤ (terms.map fun t => peak t.term).sum ∧
      (range b terms).high.natAbs ≤ (terms.map fun t => peak t.term).sum := by
  induction terms with
  | nil => exact ⟨le_rfl, le_rfl⟩
  | cons t terms ih =>
    obtain ⟨hlow, hhigh⟩ := ih (fun x hx => hpos x (List.mem_cons_of_mem t hx))
      fun x hx => hpeak x (List.mem_cons_of_mem t hx)
    obtain ⟨hl, hh⟩ := (hpeak t List.mem_cons_self).signed (hpos t List.mem_cons_self) t.sign
    simp only [range, List.map_cons, List.sum_cons] at hlow hhigh ⊢
    omega

/-- **Terms whose largest absolute values fit together are not refused.** -/
theorem bounds_of_peaks {f : Formula} (hpos : ∀ t ∈ f.terms, t.term.Positive)
    (hbound : ∀ s ∈ f.symbols, ∃ v, b.get? s = some v) (peak : Term → Nat)
    (hpeak : ∀ t ∈ f.terms, t.term.Peaks b (peak t.term))
    (hsum : (f.terms.map fun t => peak t.term).sum < 2 ^ 63) : ∃ i, f.bounds b = .ok i := by
  cases hbounds : f.bounds b with
  | ok i => exact ⟨i, rfl⟩
  | error e =>
    exfalso
    obtain ⟨n, ⟨t, hn, hrefused⟩, -⟩ := (bounds_eq_error_iff hpos).1 hbounds
    have ht : t ∈ f.terms := List.mem_of_getElem? hn
    -- the terms up to the one that is refused are some of the formula
    have hupTo : f.terms.take n ++ [t] <+: f.terms := by
      have htake := List.take_add_one (l := f.terms) (i := n)
      rw [hn, Option.toList_some] at htake
      rw [← htake]
      exact List.take_prefix _ _
    obtain ⟨hlow, hhigh⟩ := natAbs_range_le (fun x hx => hpos x (hupTo.subset hx))
      fun x hx => hpeak x (hupTo.subset hx)
    have hle : ((f.terms.take n ++ [t]).map fun t => peak t.term).sum ≤
        (f.terms.map fun t => peak t.term).sum :=
      (hupTo.sublist.map fun t => peak t.term).sum_le_sum fun _ _ => Nat.zero_le _
    cases hrefused with
    | low h => unfold Overflows at h; omega
    | high h => unfold Overflows at h; omega
    | term hfails =>
      obtain ⟨-, hhigh⟩ := (hpeak t ht).signed (hpos t ht) .plus
      have hterm : peak t.term ≤ (f.terms.map fun t => peak t.term).sum :=
        List.le_sum_of_mem (List.mem_map.2 ⟨t, ht, rfl⟩)
      generalize hx : t.term = x at hfails hhigh hterm
      cases hfails with
      | @unbound s hfree =>
        obtain ⟨v, hv⟩ := hbound s (List.mem_filterMap.2 ⟨t, ht, by rw [hx]; rfl⟩)
        rw [hfree] at hv
        cases hv
      | @product r hlarge =>
        have hproduct : ((r.count.toNat * r.sides.toNat * r.factor.toNat : Nat) : Int).natAbs ≤
            peak (.dice r) := by
          exact_mod_cast hhigh
        omega

/-! ## The expected total -/

/-- A term that has bounds has an expected total. -/
theorem average_of_bounds {t : Term} {i : Interval} (h : t.bounds b = .ok i) :
    ∃ x, t.average b = .ok x := by
  cases t with
  | dice r => exact ⟨_, rfl⟩
  | flat n => exact ⟨_, rfl⟩
  | symbol s =>
    simp only [Term.bounds] at h
    cases hv : b.get? s with
    | none => rw [hv] at h; cases h
    | some v => exact ⟨v.toFloat, by rw [Term.average, hv]⟩

/-- No error comes up where the expected totals of such terms are added up. -/
theorem foldlM_average {terms : List SignedTerm} (h : ∀ t ∈ terms, ∃ i, t.term.bounds b = .ok i)
    (total : Float) : ∃ x, terms.foldlM (addAverage b) total = .ok x := by
  induction terms generalizing total with
  | nil => exact ⟨total, rfl⟩
  | cons t terms ih =>
    obtain ⟨⟨i, hi⟩, hterms⟩ := List.forall_mem_cons.1 h
    obtain ⟨x, hx⟩ := average_of_bounds hi
    rw [List.foldlM_cons, addAverage, hx]
    exact ih hterms _

/-- **A formula has an expected total if it has bounds**, and else the same error. -/
theorem average_eq_error_iff {f : Formula} {e : EvalError} :
    f.average b = .error e ↔ f.bounds b = .error e := by
  constructor
  · intro h
    rcases bind_eq_error h with h | ⟨i, hi, h⟩
    · exact h
    · obtain ⟨x, hx⟩ := foldlM_average (foldlM_term hi) 0.0
      rw [hx] at h
      cases h
  · intro h
    rw [average, h]
    rfl

/-- **A formula without a 0 in its rolls is refused exactly where the walk over its terms ends**: at
the first term that is a symbol without a value, has too large a product, or brings a total out of
range. The expected total of a formula is refused where its bounds are.

So if its symbols have values, and the largest absolute values of its terms together fit in 64 bits,
then no formula of these terms is refused, whatever their order and their signs. -/
theorem bounds_refused (b : Bindings) :
    (∀ f : Formula, (∀ t ∈ f.terms, t.term.Positive) →
      ((∃ e, f.bounds b = .error e) ↔ ∃ n e, RefusedAt b f.terms n e) ∧
      ∀ e, f.bounds b = .error e ↔ FirstError (RefusedAt b f.terms) e) ∧
    (∀ (f : Formula) e, f.average b = .error e ↔ f.bounds b = .error e) ∧
    ∀ (f : Formula) (peak : Term → Nat), (∀ t ∈ f.terms, t.term.Positive) →
      (∀ s ∈ f.symbols, ∃ v, b.get? s = some v) →
      (∀ t ∈ f.terms, t.term.Peaks b (peak t.term)) →
      (f.terms.map fun t => peak t.term).sum < 2 ^ 63 →
      ∀ g : Formula, (g.terms.map (·.term)).Perm (f.terms.map (·.term)) →
        ∃ i, g.bounds b = .ok i := by
  refine ⟨?_, fun f e => average_eq_error_iff, ?_⟩
  · intro f hpos
    refine ⟨?_, fun e => bounds_eq_error_iff hpos⟩
    rw [← exists_firstError_iff]
    exact exists_congr fun e => bounds_eq_error_iff hpos
  · intro f peak hpos hbound hpeak hsum g hperm
    have hterm : ∀ t ∈ g.terms, ∃ x ∈ f.terms, x.term = t.term := fun t ht =>
      List.mem_map.1 (hperm.subset (List.mem_map_of_mem ht))
    have hsame : (g.terms.map fun t => peak t.term).sum = (f.terms.map fun t => peak t.term).sum := by
      have h := (hperm.map peak).sum_eq
      rwa [List.map_map, List.map_map] at h
    refine bounds_of_peaks ?_ ?_ peak ?_ (hsame ▸ hsum)
    · intro t ht
      obtain ⟨x, hx, heq⟩ := hterm t ht
      exact heq ▸ hpos x hx
    · intro s hs
      obtain ⟨t, ht, hsymbol⟩ := List.mem_filterMap.1 hs
      obtain ⟨x, hx, heq⟩ := hterm t ht
      exact hbound s (List.mem_filterMap.2 ⟨x, hx, heq ▸ hsymbol⟩)
    · intro t ht
      obtain ⟨x, hx, heq⟩ := hterm t ht
      exact heq ▸ hpeak x hx

/-- With the least modifier a formula is refused that takes it away. With one that leaves room for
the roll the formula has totals, and so it has when both terms are taken away, in the other order. -/
theorem bounds_refused_modifier :
    (∀ t ∈ (⟨[⟨.plus, .dice ⟨1, 6, none⟩⟩, ⟨.minus, .symbol .modifier⟩]⟩ : Formula).terms,
      t.term.Positive) ∧
    RefusedAt ⟨some Int64.minValue⟩ [⟨.plus, .dice ⟨1, 6, none⟩⟩, ⟨.minus, .symbol .modifier⟩] 1
      .overflow ∧
    FirstError (RefusedAt ⟨some Int64.minValue⟩
      [⟨.plus, .dice ⟨1, 6, none⟩⟩, ⟨.minus, .symbol .modifier⟩]) .overflow ∧
    ∃ i, (⟨[⟨.minus, .symbol .modifier⟩, ⟨.minus, .dice ⟨1, 6, none⟩⟩]⟩ : Formula).bounds
      ⟨some (-9223372036854775801)⟩ = .ok i := by
  have hpos : ∀ t ∈ (⟨[⟨.plus, .dice ⟨1, 6, none⟩⟩, ⟨.minus, .symbol .modifier⟩]⟩ : Formula).terms,
      t.term.Positive := by
    rintro t (_ | ⟨_, _ | ⟨_, ⟨⟩⟩⟩) r hr
    · cases hr
      exact ⟨by decide, by decide, nofun⟩
    · cases hr
  obtain ⟨-, herror⟩ := (bounds_refused ⟨some Int64.minValue⟩).1 _ hpos
  have hfirst := (herror .overflow).1 (by decide +kernel)
  refine ⟨hpos, ⟨_, rfl, .high (.inr (by decide +kernel))⟩, hfirst, ?_⟩
  -- the roll and the modifier together reach the greatest number of 64 bits
  refine (bounds_refused ⟨some (-9223372036854775801)⟩).2.2 _
    (fun t => max (t.range _).low.natAbs (t.range _).high.natAbs) hpos ?_
    (fun t ht => peaks_range (hpos t ht)) (by decide +kernel) _ (List.Perm.swap _ _ _)
  rintro s -
  cases s
  exact ⟨_, rfl⟩

end Formula

end Rulebook
