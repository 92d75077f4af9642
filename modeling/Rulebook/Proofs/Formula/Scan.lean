import Rulebook.Formula.Token

/-!
# Cutting a text into tokens

What the scanner does at the start of a text, for each thing that can stand there. Later proofs cut
a text with these lemmas and never open the scanner.

* `scanFrom_spacing`: spaces, tabs and line ends are passed over.
* `scanFrom_piece`: a piece that its first character goes on with is one token, if the text behind
  it does not go on with it.
* `Ends`: texts that go on with no piece at all.
* `ofPiece_word`: the token that a piece is which starts with a digit or an upper-case letter.
-/

namespace Rulebook.Token

/-- A text that goes on with no number and no symbol: it is empty, or starts with another
character. -/
def Ends (text : List Char) : Prop := ∀ c ∈ text.head?, isSymbolPart c = false

theorem ends_nil : Ends [] := by intro c hc; cases hc

theorem ends_cons {c : Char} {text : List Char} (h : isSymbolPart c = false) :
    Ends (c :: text) := by
  intro d hd
  cases hd; exact h

/-- A character that goes on with any token at all goes on with symbols. -/
theorem isSymbolPart_of_continues {c d : Char} (h : continues c d = true) :
    isSymbolPart d = true := by
  unfold continues at h
  split at h
  · simp [isSymbolPart, h]
  · split at h
    · exact h
    · cases h

theorem continues_of_isDigit {c : Char} (h : c.isDigit = true) : continues c = Char.isDigit := by
  rw [continues, if_pos h]

theorem scanFrom_nil (pos : Nat) : scanFrom pos [] = [] := by rw [scanFrom]

/-- What may stand between two tokens is passed over. -/
theorem scanFrom_spacing {pos : Nat} {c : Char} (h : isSpacing c = true) (rest : List Char) :
    scanFrom pos (c :: rest) = scanFrom (pos + c.utf8Size) rest := by
  rw [scanFrom, if_pos h]

/-- **A token is as long as it can be**, and what is behind it is cut on its own. -/
theorem scanFrom_piece {pos : Nat} {c : Char} {cs rest : List Char} (hc : isSpacing c = false)
    (hcs : ∀ d ∈ cs, continues c d = true) (hrest : ∀ d ∈ rest.head?, continues c d = false) :
    scanFrom pos (c :: cs ++ rest) =
      ⟨ofPiece (c :: cs), .ofPiece pos (c :: cs)⟩ ::
        scanFrom (pos + byteLength (c :: cs)) rest := by
  -- nothing of what is behind the piece goes into it
  have hstop : rest.takeWhile (continues c) = [] ∧ rest.dropWhile (continues c) = rest := by
    cases rest with
    | nil => exact ⟨rfl, rfl⟩
    | cons d rest =>
      have hd := hrest d rfl
      exact ⟨List.takeWhile_cons_of_neg (by simp [hd]), List.dropWhile_cons_of_neg (by simp [hd])⟩
  have htake : (cs ++ rest).takeWhile (continues c) = cs := by
    rw [List.takeWhile_append_of_pos hcs, hstop.1, List.append_nil]
  have hdrop : (cs ++ rest).dropWhile (continues c) = rest := by
    rw [List.dropWhile_append_of_pos hcs, hstop.2]
  rw [List.cons_append, scanFrom, if_neg (by simp [hc])]
  simp only [htake, hdrop]

/-- A character that no token goes on from is a token of its own. -/
theorem scanFrom_single {pos : Nat} {c : Char} (hc : isSpacing c = false)
    (hd : c.isDigit = false) (hu : c.isUpper = false) (rest : List Char) :
    scanFrom pos (c :: rest) =
      ⟨ofPiece [c], .ofPiece pos [c]⟩ :: scanFrom (pos + byteLength [c]) rest := by
  refine scanFrom_piece hc (List.forall_mem_nil _) ?_
  intro d _
  simp [continues, hd, hu]

/-- A piece in front of a text that goes on with nothing. -/
theorem scanFrom_piece_of_ends {pos : Nat} {c : Char} {cs rest : List Char}
    (hc : isSpacing c = false) (hcs : ∀ d ∈ cs, continues c d = true) (hrest : Ends rest) :
    scanFrom pos (c :: cs ++ rest) =
      ⟨ofPiece (c :: cs), .ofPiece pos (c :: cs)⟩ ::
        scanFrom (pos + byteLength (c :: cs)) rest := by
  refine scanFrom_piece hc hcs ?_
  intro d hd
  rw [Bool.eq_false_iff]
  intro h
  have hpart := isSymbolPart_of_continues h
  rw [hrest d hd] at hpart
  cases hpart

/-- The first piece of a text and what is behind it make up the text. -/
theorem piece_append (c : Char) (cs : List Char) :
    c :: cs.takeWhile (continues c) ++ cs.dropWhile (continues c) = c :: cs := by
  rw [List.cons_append, List.takeWhile_append_dropWhile]

/-- What is behind the first piece of a text does not go on with it. -/
theorem piece_stops (c : Char) (cs : List Char) :
    ∀ d ∈ (cs.dropWhile (continues c)).head?, continues c d = false := by
  intro d hd
  have hnot := List.head?_dropWhile_not (continues c) cs
  rw [hd] at hnot
  simpa using hnot

/-! ## Numbers and symbols -/

theorem isUpper_iff {c : Char} : c.isUpper = true ↔ 65 ≤ c.toNat ∧ c.toNat ≤ 90 := by
  have h : c.isUpper = decide ('A'.val ≤ c.val ∧ c.val ≤ 'Z'.val) := rfl
  rw [h, decide_eq_true_eq]
  exact Iff.rfl

theorem isDigit_iff {c : Char} : c.isDigit = true ↔ 48 ≤ c.toNat ∧ c.toNat ≤ 57 := by
  have h : c.isDigit = (decide ('0'.val ≤ c.val) && decide (c.val ≤ '9'.val)) := rfl
  rw [h, Bool.and_eq_true, decide_eq_true_eq, decide_eq_true_eq]
  exact Iff.rfl

/-- Digits and upper-case letters start a token: they are no spacing. -/
theorem isSpacing_of_word {c : Char} (h : c.isDigit = true ∨ c.isUpper = true) :
    isSpacing c = false := by
  rw [Bool.eq_false_iff]
  intro hs
  simp only [isSpacing, Bool.or_eq_true, beq_iff_eq] at hs
  rcases hs with ((rfl | rfl) | rfl) | rfl <;> rcases h with h | h <;> cases h

/-- A piece that starts with a digit is a number, and one that starts with an upper-case letter is
a symbol. -/
theorem ofPiece_word {c : Char} (h : c.isDigit = true ∨ c.isUpper = true) (cs : List Char) :
    ofPiece (c :: cs) =
      if c.isDigit then ofDigits (c :: cs) else symbol (String.ofList (c :: cs)) := by
  have hne : c ≠ 'd' ∧ c ≠ '+' ∧ c ≠ '-' ∧ c ≠ '×' ∧ c ≠ 'x' ∧ c ≠ '*' := by
    refine ⟨?_, ?_, ?_, ?_, ?_, ?_⟩ <;> rintro rfl <;> rcases h with h | h <;> cases h
  obtain ⟨h1, h2, h3, h4, h5, h6⟩ := hne
  rcases h with h | h <;> simp [ofPiece, h1, h2, h3, h4, h5, h6, h]

end Rulebook.Token
