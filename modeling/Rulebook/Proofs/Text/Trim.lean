import Mathlib.Data.List.DropRight
import Rulebook.Text.Blank

/-!
# Trimmed texts

* `trimEnd_of_last`, `trimEnd_append`, `trimStart_append`: where a text ends or starts that is trimmed
  there.
* `exists_eq_append_trim`: a text is its trimmed form with blanks around it.
* `trim_trim`: a trimmed text has no blanks left at its ends.
-/

namespace Rulebook

theorem exists_eq_trimEnd_append (text : List Char) :
    ∃ after, text = trimEnd text ++ after ∧ ∀ c ∈ after, isBlank c = true := by
  refine ⟨text.rtakeWhile isBlank, List.rdropWhile_append_rtakeWhile.symm, ?_⟩
  intro c hc
  exact List.mem_takeWhile_imp (List.mem_reverse.1 hc)

/-- A text ends with its last character that is not blank. -/
theorem trimEnd_of_last {before after : List Char} {c : Char} (hc : isBlank c = false)
    (hafter : ∀ d ∈ after, isBlank d = true) : trimEnd (before ++ c :: after) = before ++ [c] := by
  have hreverse : ∀ d ∈ after.reverse, isBlank d = true := fun d hd =>
    hafter d (List.mem_reverse.1 hd)
  unfold trimEnd
  rw [List.reverse_append, List.reverse_cons, List.append_assoc,
    List.dropWhile_append_of_pos hreverse, List.singleton_append,
    List.dropWhile_cons_of_neg (by simp [hc])]
  simp

/-- What a trimmed text ends with is not blank. -/
theorem isBlank_last {text before : List Char} {c : Char} (h : trimEnd text = before ++ [c]) :
    isBlank c = false := by
  have hne : text.rdropWhile isBlank ≠ [] := by
    rw [show text.rdropWhile isBlank = before ++ [c] from h]
    simp
  have hlast := List.rdropWhile_last_not isBlank text hne
  simp only [show text.rdropWhile isBlank = before ++ [c] from h,
    List.getLast_append_singleton] at hlast
  simpa using hlast

/-- The end of a text, if its last part has something to keep. -/
theorem trimEnd_append (before : List Char) {after : List Char} (h : trimEnd after ≠ []) :
    trimEnd (before ++ after) = before ++ trimEnd after := by
  obtain ⟨blanks, hafter, hblanks⟩ := exists_eq_trimEnd_append after
  obtain ⟨init, c, htrim⟩ : ∃ init c, trimEnd after = init ++ [c] :=
    ⟨_, _, (List.dropLast_append_getLast h).symm⟩
  have hc : isBlank c = false := isBlank_last htrim
  rw [htrim] at hafter ⊢
  calc trimEnd (before ++ after) = trimEnd (before ++ init ++ c :: blanks) := by
        rw [hafter]; simp
    _ = before ++ (init ++ [c]) := by rw [trimEnd_of_last hc hblanks, List.append_assoc]

/-- **A text is its trimmed form with blanks around it.** -/
theorem exists_eq_append_trim (text : List Char) :
    ∃ before after, text = before ++ trim text ++ after ∧
      (∀ c ∈ before, isBlank c = true) ∧ ∀ c ∈ after, isBlank c = true := by
  obtain ⟨after, hafter, hblank⟩ := exists_eq_trimEnd_append (trimStart text)
  refine ⟨text.takeWhile isBlank, after, ?_, fun c hc => List.mem_takeWhile_imp hc, hblank⟩
  calc text = text.takeWhile isBlank ++ trimStart text := List.takeWhile_append_dropWhile.symm
    _ = text.takeWhile isBlank ++ (trim text ++ after) := by rw [trim, ← hafter]
    _ = text.takeWhile isBlank ++ trim text ++ after := (List.append_assoc _ _ _).symm

/-- Nothing is cut from the start of a text whose longer form starts without a blank. -/
theorem trimStart_eq_self_of_start {text longer : List Char} (h : text <+: trimStart longer) :
    trimStart text = text := by
  cases text with
  | nil => rfl
  | cons c cs =>
    obtain ⟨rest, hrest⟩ := h
    have hc : isBlank c = false := by
      have hnot := List.head?_dropWhile_not isBlank longer
      rw [show longer.dropWhile isBlank = trimStart longer from rfl, ← hrest] at hnot
      simpa using hnot
    exact List.dropWhile_cons_of_neg (by simp [hc])

/-- Blanks in front of a text are none of its start. -/
theorem trimStart_append {before : List Char} (hbefore : ∀ c ∈ before, isBlank c = true)
    (text : List Char) : trimStart (before ++ text) = trimStart text :=
  List.dropWhile_append_of_pos hbefore

/-- **A trimmed text has no blanks at its ends.** -/
theorem trim_trim (text : List Char) : trim (trim text) = trim text := by
  have hstart : trimStart (trim text) = trim text :=
    trimStart_eq_self_of_start (List.rdropWhile_prefix isBlank (trimStart text))
  calc trim (trim text) = trimEnd (trim text) := by rw [trim, hstart]
    _ = trim text := List.rdropWhile_idempotent isBlank (trimStart text)

end Rulebook
