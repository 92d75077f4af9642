import Rulebook.Formula.Parser
import Rulebook.Proofs.Formula.Position

/-!
# The word that a text breaks off with

An input that ends too early is blamed on the operator or the word that it ends with. The word is found
by counting bytes: it starts one byte behind the last separator. Most blanks are longer than that, and a
word behind one of them would start inside it. But all tokens of a text are known when its end is blamed,
and then its blanks are spacing, which takes up one byte.

* `utf8Size_of_isSeparator`: a separator that is spacing or an operator is one byte long.
* `danglingStart_eq`: **the word starts between two characters**, if all blanks of the text are spacing.
* `widen_ending`: **where all tokens are known, the end is widened to the last piece of the text**, which
  ends where the text does, but for blanks.
-/

namespace Rulebook

theorem Token.utf8Size_of_isSpacing {c : Char} (h : Token.isSpacing c = true) : c.utf8Size = 1 := by
  simp only [isSpacing, Bool.or_eq_true, beq_iff_eq] at h
  rcases h with ((rfl | rfl) | rfl) | rfl <;> rfl

namespace Formula

open Token (isSpacing)

/-- A separator is one byte long, unless it is a blank other than spacing. -/
theorem utf8Size_of_isSeparator {c : Char} (hspacing : isBlank c = true → isSpacing c = true)
    (h : isSeparator c = true) : c.utf8Size = 1 := by
  simp only [isSeparator, Bool.or_eq_true, beq_iff_eq] at h
  rcases h with (hblank | rfl) | rfl
  · exact Token.utf8Size_of_isSpacing (hspacing hblank)
  · rfl
  · rfl

/-- What is neither blank nor an operator separates no words. -/
theorem isSeparator_of_not_operator {c : Char} (hop : isOperator c = false)
    (hblank : isBlank c = false) : isSeparator c = false := by
  simp only [isOperator, Bool.or_eq_false_iff] at hop
  simp [isSeparator, hop, hblank]

/-- **The word that a text ends with starts between two characters** of it, if no blank of the text is
longer than a byte. There is a word unless the text ends with a blank. -/
theorem danglingStart_eq {text : List Char}
    (hspacing : ∀ c ∈ text, isBlank c = true → isSpacing c = true) :
    ∃ before word, text = before ++ word ∧ danglingStart text = byteLength before ∧
      ∀ c ∈ text.getLast?, isBlank c = false → word ≠ [] := by
  rw [danglingStart]
  split
  · -- the text ends with an operator
    rename_i hop
    rcases List.eq_nil_or_concat text with rfl | ⟨before, c, rfl⟩
    · cases hop
    · exact ⟨before, [c], by simp, by simp, fun _ _ _ => List.cons_ne_nil c []⟩
  · rename_i hop
    rcases lastPosition?_cases isSeparator text with ⟨hnone, -⟩ |
      ⟨before, c, after, rfl, hc, -, hsome⟩
    · refine ⟨[], text, rfl, by rw [hnone]; rfl, ?_⟩
      rintro d hd - rfl
      cases hd
    · have hsize := utf8Size_of_isSeparator (hspacing c (by simp)) hc
      refine ⟨before ++ [c], after, by simp, ?_, ?_⟩
      · rw [hsome, byteLength_append, byteLength_cons, hsize]
        rfl
      · -- the last separator is neither a blank nor an operator, if nothing stands behind it
        rintro d hd hblank rfl
        obtain rfl : c = d := by simpa using hd
        have hnot : isOperator c = false := by simpa using hop
        rw [isSeparator_of_not_operator hnot hblank] at hc
        cases hc

/-- The end of a text is widened to the word that the text ends with, but for blanks. -/
theorem widen_end (source : List Char) :
    widen source (.ofPiece (byteLength source) []) =
      ⟨danglingStart (trimEnd source), byteLength (trimEnd source)⟩ := by
  have hcut : splitBytes? (byteLength source) source = some (source, []) :=
    splitBytes?_eq_some_iff.2 ⟨(List.append_nil source).symm, rfl⟩
  have hempty : ¬ (Span.ofPiece (byteLength source) []).start <
      (Span.ofPiece (byteLength source) []).stop := Nat.lt_irrefl _
  rw [widen, if_neg hempty]
  simp only [Span.ofPiece, hcut, Option.map_some, Option.getD_some]

/-- **Where the end of a text is blamed.** If all tokens of the text are known, the end is widened to the
last piece of the text, but for blanks. -/
theorem widen_ending {source : List Char} (hknown : ∀ t ∈ Token.scan source, t.value.Known) :
    ∃ before word after, source = before ++ word ++ after ∧ trimEnd source = before ++ word ∧
      widen source (.ofPiece (byteLength source) []) = .ofPiece (byteLength before) word ∧
      (trimEnd source ≠ [] → word ≠ []) := by
  obtain ⟨after, hafter, -⟩ := exists_eq_trimEnd_append source
  have hspacing : ∀ c ∈ trimEnd source, isBlank c = true → isSpacing c = true := fun c hc =>
    Token.isSpacing_of_known hknown c (by rw [hafter]; exact List.mem_append_left _ hc)
  obtain ⟨before, word, htrim, hstart, hword⟩ := danglingStart_eq hspacing
  refine ⟨before, word, after, by rw [← htrim, ← hafter], htrim, ?_, fun hne => ?_⟩
  · rw [widen_end, hstart, htrim, byteLength_append, Span.ofPiece]
  · have hlast := List.dropLast_append_getLast hne
    exact hword _ (List.getLast?_eq_some_getLast hne) (isBlank_last hlast.symm)

-- behind a no-break space, which is two bytes long, the word would start inside it
example : widen "1\u00a0d".toList ⟨4, 4⟩ = ⟨2, 4⟩ ∧
    Span.get? ⟨2, 4⟩ "1\u00a0d".toList = none := by decide

end Formula

end Rulebook
