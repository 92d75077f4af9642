import Mathlib.Data.Nat.Find

/-!
# Results and errors of steps in a row

* `bind_eq_ok`, `bind_eq_error`, `bind_eq_error_iff`: where the result or the error of two steps comes from.
* `map_eq_ok`, `map_eq_error`: a result and an error under a function.
* `toOption_eq_some_iff`: a result without the reason why there is none.
* `FirstError`: the error of the first of numbered steps that fails. `exists_firstError_iff`: there
  is one if any step fails. `firstError_iff`: it is that of step 0, or that of the steps behind it.
-/

namespace Rulebook

variable {ε α β : Type} {x : Except ε α}

theorem bind_eq_ok {f : α → Except ε β} {b : β} (h : x >>= f = .ok b) :
    ∃ a, x = .ok a ∧ f a = .ok b := by
  cases x with
  | error e => cases h
  | ok a => exact ⟨a, rfl, h⟩

theorem bind_eq_error {f : α → Except ε β} {e : ε} (h : x >>= f = .error e) :
    x = .error e ∨ ∃ a, x = .ok a ∧ f a = .error e := by
  cases x with
  | error e' => cases h; exact .inl rfl
  | ok a => exact .inr ⟨a, rfl, h⟩

theorem bind_eq_error_iff {f : α → Except ε β} {e : ε} :
    x >>= f = .error e ↔ x = .error e ∨ ∃ a, x = .ok a ∧ f a = .error e := by
  refine ⟨bind_eq_error, ?_⟩
  rintro (rfl | ⟨a, rfl, h⟩)
  · rfl
  · exact h

theorem map_eq_ok {f : α → β} {b : β} (h : f <$> x = .ok b) : ∃ a, x = .ok a ∧ f a = b := by
  cases x with
  | error e => cases h
  | ok a => exact ⟨a, rfl, Except.ok.inj h⟩

theorem map_eq_error {f : α → β} {e : ε} (h : f <$> x = .error e) : x = .error e := by
  cases x with
  | error e' => cases h; rfl
  | ok a => cases h

theorem toOption_eq_some_iff {a : α} : x.toOption = some a ↔ x = .ok a := by
  cases x <;> simp [Except.toOption]

/-- **The error of the first step that fails**, for steps that are numbered from 0. -/
def FirstError (fails : Nat → ε → Prop) (e : ε) : Prop :=
  ∃ n, fails n e ∧ ∀ m < n, ∀ e', ¬ fails m e'

/-- Where a step fails there is a first one that does. -/
theorem exists_firstError_iff {fails : Nat → ε → Prop} :
    (∃ e, FirstError fails e) ↔ ∃ n e, fails n e := by
  classical
  constructor
  · rintro ⟨e, n, h, -⟩
    exact ⟨n, e, h⟩
  · intro h
    obtain ⟨e, he⟩ := Nat.find_spec h
    exact ⟨e, Nat.find h, he, fun m hm e' he' => Nat.find_min h hm ⟨e', he'⟩⟩

/-- The first error is that of step 0, or that of the steps behind it if step 0 succeeds. -/
theorem firstError_iff {fails : Nat → ε → Prop} {e : ε} :
    FirstError fails e ↔
      fails 0 e ∨ (∀ e', ¬ fails 0 e') ∧ FirstError (fun n => fails (n + 1)) e := by
  constructor
  · rintro ⟨_ | n, h, hfirst⟩
    · exact .inl h
    · exact .inr ⟨hfirst 0 n.succ_pos, n, h, fun m hm => hfirst (m + 1) (Nat.succ_lt_succ hm)⟩
  · rintro (h | ⟨hzero, n, h, hfirst⟩)
    · exact ⟨0, h, fun m hm => absurd hm m.not_lt_zero⟩
    · refine ⟨n + 1, h, ?_⟩
      rintro (_ | m) hm
      · exact hzero
      · exact hfirst m (Nat.lt_of_succ_lt_succ hm)

end Rulebook
