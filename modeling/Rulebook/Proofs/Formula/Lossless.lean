import Mathlib.Algebra.Group.Nat.Defs
import Rulebook.Proofs.Formula.Position

/-!
# Nothing is lost between text and tokens

* `Unmatched`, `Reads`: what each kind of token says of the text at its span. `ofPiece_reads`: the
  token of a piece says what the piece is.
* `Greedy`: a piece that could not be longer.
* `Accounts`: **tokens that account for a text**: pieces of it in order, each read as what it is, none
  of which could be longer, with nothing but spacing around them.
* `scan_accounts`: **the tokens of a text account for it.**
-/

namespace Rulebook.Token

/-! ## What a token says -/

/-- A character that starts no token and is no spacing. -/
structure Unmatched (c : Char) : Prop where
  spacing : isSpacing c = false
  digit : c.isDigit = false
  upper : c.isUpper = false
  mark : c ∉ ['d', '+', '-', '×', 'x', '*']

/-- **What a token says of the text at its span.** A number is written in digits and has their value,
and digits of a larger value than 32 bits hold are unknown. A symbol starts with an upper-case letter
and goes on with letters, digits and `_`. Every other token is one character, and an unknown one
starts nothing else. -/
inductive Reads : Token → List Char → Prop where
  | int {n : UInt32} {digits : List Char} (nonempty : digits ≠ [])
      (digit : ∀ c ∈ digits, c.isDigit = true)
      (value : Nat.ofDigitChars 10 digits 0 = n.toNat) : Reads (.int n) digits
  | large {digits : List Char} (nonempty : digits ≠ [])
      (digit : ∀ c ∈ digits, c.isDigit = true)
      (value : 2 ^ 32 ≤ Nat.ofDigitChars 10 digits 0) :
      Reads (.unknown (String.ofList digits)) digits
  | symbol {c : Char} {cs : List Char} (upper : c.isUpper = true)
      (part : ∀ d ∈ cs, isSymbolPart d = true) :
      Reads (.symbol (String.ofList (c :: cs))) (c :: cs)
  | die : Reads .die ['d']
  | plus : Reads .plus ['+']
  | minus : Reads .minus ['-']
  | times {c : Char} (spelling : c ∈ ['×', 'x', '*']) : Reads .times [c]
  | unmatched {c : Char} (h : Unmatched c) : Reads (.unknown (String.ofList [c])) [c]

theorem ofDigits_reads {digits : List Char} (hne : digits ≠ [])
    (hdigit : ∀ c ∈ digits, c.isDigit = true) : Reads (ofDigits digits) digits := by
  unfold ofDigits
  simp only
  split
  · rename_i hlt
    exact .int hne hdigit (UInt32.toNat_ofNat_of_lt' hlt).symm
  · rename_i hge
    exact .large hne hdigit (Nat.le_of_not_lt hge)

/-- A character that no other token starts with is a token of its own. -/
theorem ofPiece_single_reads {c : Char} (hc : isSpacing c = false) (hd : c.isDigit = false)
    (hu : c.isUpper = false) : Reads (ofPiece [c]) [c] := by
  by_cases hmark : c ∈ ['d', '+', '-', '×', 'x', '*']
  · simp only [List.mem_cons, List.not_mem_nil, or_false] at hmark
    rcases hmark with rfl | rfl | rfl | rfl | rfl | rfl
    · exact .die
    · exact .plus
    · exact .minus
    · exact .times (by simp)
    · exact .times (by simp)
    · exact .times (by simp)
  · have hother : ofPiece [c] = .unknown (String.ofList [c]) := by
      simp only [List.mem_cons, List.not_mem_nil, or_false, not_or] at hmark
      simp [ofPiece, hmark, hd, hu]
    rw [hother]
    exact .unmatched ⟨hc, hd, hu, hmark⟩

/-- **The token of a piece says what the piece is.** -/
theorem ofPiece_reads {c : Char} {cs : List Char} (hc : isSpacing c = false)
    (hcs : ∀ d ∈ cs, continues c d = true) : Reads (ofPiece (c :: cs)) (c :: cs) := by
  by_cases hd : c.isDigit = true
  · rw [continues_of_isDigit hd] at hcs
    rw [ofPiece_word (.inl hd), if_pos hd]
    exact ofDigits_reads (List.cons_ne_nil c cs) (List.forall_mem_cons.2 ⟨hd, hcs⟩)
  · by_cases hu : c.isUpper = true
    · rw [ofPiece_word (.inr hu), if_neg hd]
      exact .symbol hu fun d hmem => isSymbolPart_of_continues (hcs d hmem)
    · -- no other character goes on
      have hnil : cs = [] := by
        refine List.eq_nil_iff_forall_not_mem.2 fun d hmem => ?_
        have hgoes := hcs d hmem
        simp [continues, hd, hu] at hgoes
      subst hnil
      exact ofPiece_single_reads hc (Bool.eq_false_iff.2 hd) (Bool.eq_false_iff.2 hu)

/-- The first token of a text says what the first piece is. -/
theorem ofPiece_takeWhile_reads {c : Char} (hc : ¬ isSpacing c = true) (cs : List Char) :
    Reads (ofPiece (c :: cs.takeWhile (continues c))) (c :: cs.takeWhile (continues c)) :=
  ofPiece_reads (Bool.eq_false_iff.2 hc) fun _ hd => List.mem_takeWhile_imp hd

/-! ## Pieces as long as they can be -/

/-- **A piece that could not be longer**: digits are followed by no digit, and what starts with an
upper-case letter by no upper-case letter, digit or `_`. -/
structure Greedy (piece rest : List Char) : Prop where
  digits : (∀ d ∈ piece, d.isDigit = true) → ∀ c ∈ rest.head?, c.isDigit = false
  symbol : (∀ d ∈ piece.head?, d.isUpper = true) → ∀ c ∈ rest.head?, isSymbolPart c = false

theorem isDigit_of_isUpper {c : Char} (h : c.isUpper = true) : c.isDigit = false := by
  rw [Bool.eq_false_iff]
  intro hd
  have hupper := isUpper_iff.1 h
  have hdigit := isDigit_iff.1 hd
  omega

theorem continues_of_isUpper {c : Char} (h : c.isUpper = true) : continues c = isSymbolPart := by
  rw [continues, if_neg (by simp [isDigit_of_isUpper h]), if_pos h]

theorem greedy_piece {c : Char} {cs rest : List Char}
    (h : ∀ d ∈ rest.head?, continues c d = false) : Greedy (c :: cs) rest where
  digits hdigit := by rwa [continues_of_isDigit (hdigit c List.mem_cons_self)] at h
  symbol hupper := by rwa [continues_of_isUpper (hupper c rfl)] at h

/-! ## The tokens of a text -/

/-- **Tokens that account for a text**: pieces of it in order, each read as what it is and as long as
it can be. Every character that lies in none of them is spacing. -/
structure Accounts (text : List Char) (tokens : List (Spanned Token)) : Prop where
  located : Located text tokens
  reads : ∀ t ∈ tokens, t.value.Reads (t.span.slice text)
  greedy : ∀ t ∈ tokens, Greedy (t.span.slice text) (dropBytes t.span.stop text)
  gaps : ∀ before c after, text = before ++ c :: after →
    (∀ t ∈ tokens, byteLength before < t.span.start ∨ t.span.stop ≤ byteLength before) →
    isSpacing c = true

/-- Each token of the rest of a text is a piece that is read as what it is and could not be longer. -/
theorem scanFrom_reads (text before : List Char) :
    ∀ t ∈ scanFrom (byteLength before) text,
      t.value.Reads (t.span.slice (before ++ text)) ∧
        Greedy (t.span.slice (before ++ text)) (dropBytes t.span.stop (before ++ text)) := by
  generalize hpos : byteLength before = pos
  fun_induction scanFrom pos text generalizing before with
  | case1 pos => exact List.forall_mem_nil _
  | case2 pos c cs hc ih =>
    have hrest := ih (before ++ [c]) (by simp [hpos])
    rwa [List.append_assoc, List.singleton_append] at hrest
  | case3 pos c cs hc piece ih =>
    have htext : before ++ piece ++ cs.dropWhile (continues c) = before ++ c :: cs := by
      rw [List.append_assoc, piece_append]
    have hlength : byteLength (before ++ piece) = pos + byteLength piece := by simp [hpos]
    have hrest := ih (before ++ piece) hlength
    rw [htext] at hrest
    refine List.forall_mem_cons.2 ⟨?_, hrest⟩
    have hslice : (Span.ofPiece pos piece).slice (before ++ c :: cs) = piece := by
      rw [← hpos, ← htext]
      exact Span.slice_append before piece _
    have hdrop : dropBytes (Span.ofPiece pos piece).stop (before ++ c :: cs) =
        cs.dropWhile (continues c) := by
      rw [← htext, Span.ofPiece, ← hlength]
      exact dropBytes_append _ _
    rw [hslice, hdrop]
    exact ⟨ofPiece_takeWhile_reads hc cs, greedy_piece (piece_stops c cs)⟩

/-- What lies in no token of the rest of a text is spacing. -/
theorem scanFrom_gaps (text before inside : List Char) (x : Char) (after : List Char)
    (hx : text = inside ++ x :: after)
    (hout : ∀ t ∈ scanFrom (byteLength before) text,
      byteLength (before ++ inside) < t.span.start ∨ t.span.stop ≤ byteLength (before ++ inside)) :
    isSpacing x = true := by
  generalize hpos : byteLength before = pos at hout
  fun_induction scanFrom pos text generalizing before inside with
  | case1 pos => simp at hx
  | case2 pos c cs hc ih =>
    cases inside with
    | nil =>
      cases hx
      exact hc
    | cons d inside =>
      cases hx
      exact ih (before ++ [c]) inside rfl (by simp [hpos]) (by simpa using hout)
  | case3 pos c cs hc piece ih =>
    obtain ⟨hhead, htail⟩ := List.forall_mem_cons.1 hout
    have htext : piece ++ cs.dropWhile (continues c) = inside ++ x :: after := by
      rw [← hx, piece_append]
    -- the character is not in the first token, so it is behind it
    have hbehind : byteLength piece ≤ byteLength inside := by
      simp only [Span.ofPiece, byteLength_append, hpos] at hhead
      omega
    obtain ⟨mid, rfl, hrest⟩ := append_cut htext hbehind
    exact ih (before ++ piece) mid hrest (by simp [hpos]) (by simpa using htail)

/-- **The tokens of a text account for it**: they lie in it one after the other, each is what the text
at its span is and could not be longer, and between them there are only spaces, tabs and line ends. -/
theorem scan_accounts (text : String) : Accounts text.toList (scan text.toList) where
  located := scan_located text.toList
  reads t ht := (scanFrom_reads text.toList [] t ht).1
  greedy t ht := (scanFrom_reads text.toList [] t ht).2
  gaps before c after htext hout := scanFrom_gaps text.toList [] before c after htext hout

end Rulebook.Token
