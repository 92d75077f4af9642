import Rulebook.Proofs.Formula.Scan
import Rulebook.Proofs.Text.Piece
import Rulebook.Proofs.Text.Trim

/-!
# Where tokens stand

* `Located`: tokens that are pieces of a text, one after the other. `scan_located`: those of the
  scanner are. `scanFrom_shift`: further to the right they stand further to the right.
* `Known`: tokens that the grammar has a use for. Nothing of a known token is blank.
  `isSpacing_of_known`: between known tokens every blank is spacing.
* `scanFrom_last`: **if all tokens of a text are known, the last one ends where the text does**, but for
  blanks.
-/

namespace Rulebook

/-- A value that was read from another span. -/
def Spanned.respan {α : Type} (f : Span → Span) (x : Spanned α) : Spanned α := ⟨x.value, f x.span⟩

theorem Span.ofPiece_shift (pos k : Nat) (piece : List Char) :
    (Span.ofPiece pos piece).shift k = Span.ofPiece (pos + k) piece := by
  rw [Span.shift, Span.ofPiece, Span.ofPiece, Nat.add_right_comm]

namespace Token

/-! ## Pieces in order -/

/-- **Tokens that stand in a text**: each is a piece of it and not empty, and they follow one
another. -/
structure Located (text : List Char) (tokens : List (Spanned Token)) : Prop where
  within : ∀ t ∈ tokens, t.span.Within text
  nonempty : ∀ t ∈ tokens, t.span.start < t.span.stop
  ordered : tokens.Pairwise fun a b => a.span.stop ≤ b.span.start

theorem located_nil (text : List Char) : Located text [] where
  within _ h := by cases h
  nonempty _ h := by cases h
  ordered := .nil

theorem Located.cons {text : List Char} {t : Spanned Token} {tokens : List (Spanned Token)}
    (h : Located text tokens) (hwithin : t.span.Within text) (hlt : t.span.start < t.span.stop)
    (hbefore : ∀ u ∈ tokens, t.span.stop ≤ u.span.start) : Located text (t :: tokens) where
  within := List.forall_mem_cons.2 ⟨hwithin, h.within⟩
  nonempty := List.forall_mem_cons.2 ⟨hlt, h.nonempty⟩
  ordered := List.pairwise_cons.2 ⟨hbefore, h.ordered⟩

/-- The tokens of the rest of a text stand in it, behind what was read. -/
theorem scanFrom_located (text before : List Char) :
    Located (before ++ text) (scanFrom (byteLength before) text) ∧
      ∀ t ∈ scanFrom (byteLength before) text, byteLength before ≤ t.span.start := by
  generalize hpos : byteLength before = pos
  fun_induction scanFrom pos text generalizing before with
  | case1 pos => exact ⟨located_nil _, List.forall_mem_nil _⟩
  | case2 pos c cs hc ih =>
    have hread : byteLength (before ++ [c]) = pos + c.utf8Size := by simp [hpos]
    obtain ⟨hlocated, hbehind⟩ := ih (before ++ [c]) hread
    rw [List.append_assoc, List.singleton_append] at hlocated
    refine ⟨hlocated, ?_⟩
    intro t ht
    have := hbehind t ht
    omega
  | case3 pos c cs hc piece ih =>
    have hread : byteLength (before ++ piece) = pos + byteLength piece := by simp [hpos]
    have htext : before ++ piece ++ cs.dropWhile (continues c) = before ++ c :: cs := by
      rw [List.append_assoc, piece_append]
    have hpiece : 0 < byteLength piece := byteLength_pos (List.cons_ne_nil _ _)
    obtain ⟨hlocated, hbehind⟩ := ih (before ++ piece) hread
    rw [htext] at hlocated
    refine ⟨hlocated.cons ?_ (Nat.lt_add_of_pos_right hpiece) hbehind, ?_⟩
    · rw [← hpos, ← htext]
      exact Span.ofPiece_within _ _ _
    · intro t ht
      rcases List.mem_cons.1 ht with rfl | ht
      · exact Nat.le_refl _
      · have := hbehind t ht
        omega

/-- **The tokens of a text stand in it.** -/
theorem scan_located (text : List Char) : Located text (scan text) := (scanFrom_located text []).1

/-- **A text further to the right** has the same tokens, further to the right. -/
theorem scanFrom_shift (k pos : Nat) (text : List Char) :
    scanFrom (pos + k) text = (scanFrom pos text).map (.respan (·.shift k)) := by
  fun_induction scanFrom pos text with
  | case1 pos => exact scanFrom_nil _
  | case2 pos c cs hc ih => rw [scanFrom_spacing hc, ← ih, Nat.add_right_comm]
  | case3 pos c cs hc piece ih =>
    rw [scanFrom, if_neg hc, List.map_cons, ← ih, Spanned.respan, Span.ofPiece_shift, Nat.add_right_comm]

/-! ## Known tokens -/

/-- A token that the grammar has a use for. -/
def Known : Token → Prop
  | unknown _ => False
  | _ => True

/-- Letters, digits and `_` are not blank. -/
theorem isBlank_of_isSymbolPart {c : Char} (h : isSymbolPart c = true) : isBlank c = false := by
  rw [Bool.eq_false_iff]
  intro hb
  simp only [isSymbolPart, Bool.or_eq_true, beq_iff_eq, isUpper_iff, isDigit_iff] at h
  simp only [isBlank, Bool.or_eq_true, Bool.and_eq_true, decide_eq_true_eq, beq_iff_eq] at hb
  rcases h with (h | h) | rfl
  · omega
  · omega
  · revert hb
    decide

theorem isBlank_of_isSpacing {c : Char} (h : isSpacing c = true) : isBlank c = true := by
  simp only [isSpacing, Bool.or_eq_true, beq_iff_eq] at h
  rcases h with ((rfl | rfl) | rfl) | rfl <;> decide

/-- No number and no symbol goes on with spacing. -/
theorem isSymbolPart_of_isSpacing {c : Char} (h : isSpacing c = true) : isSymbolPart c = false := by
  rw [Bool.eq_false_iff]
  intro hpart
  have hblank := isBlank_of_isSpacing h
  rw [isBlank_of_isSymbolPart hpart] at hblank
  cases hblank

theorem ends_of_spacing {text : List Char} (h : ∀ c ∈ text, isSpacing c = true) : Ends text :=
  fun c hc => isSymbolPart_of_isSpacing (h c (List.mem_of_mem_head? hc))

/-- No token of several characters starts with a blank. -/
theorem not_word_of_isBlank {c : Char} (h : isBlank c = true) :
    c.isDigit = false ∧ c.isUpper = false := by
  have hpart : isSymbolPart c = false := by
    rw [Bool.eq_false_iff]
    intro hpart
    rw [isBlank_of_isSymbolPart hpart] at h
    cases h
  simp only [isSymbolPart, Bool.or_eq_false_iff] at hpart
  exact ⟨hpart.1.2, hpart.1.1⟩

/-- A blank that is no spacing is an unknown token. -/
theorem ofPiece_blank {c : Char} (h : isBlank c = true) (cs : List Char) :
    ofPiece (c :: cs) = unknown (String.ofList (c :: cs)) := by
  have hne : c ≠ 'd' ∧ c ≠ '+' ∧ c ≠ '-' ∧ c ≠ '×' ∧ c ≠ 'x' ∧ c ≠ '*' := by
    refine ⟨?_, ?_, ?_, ?_, ?_, ?_⟩ <;> rintro rfl <;> revert h <;> decide
  obtain ⟨h1, h2, h3, h4, h5, h6⟩ := hne
  obtain ⟨hdigit, hupper⟩ := not_word_of_isBlank h
  simp [ofPiece, h1, h2, h3, h4, h5, h6, hdigit, hupper]

/-- Nothing of a known token is blank. -/
theorem isBlank_of_known {c : Char} {cs : List Char} (h : (ofPiece (c :: cs)).Known)
    (hcs : ∀ d ∈ cs, continues c d = true) : ∀ d ∈ c :: cs, isBlank d = false := by
  intro d hd
  rcases List.mem_cons.1 hd with rfl | hd
  · rw [Bool.eq_false_iff]
    intro hb
    rw [ofPiece_blank hb] at h
    exact h
  · exact isBlank_of_isSymbolPart (isSymbolPart_of_continues (hcs d hd))

/-- Between known tokens every blank is spacing. -/
theorem isSpacing_of_known {pos : Nat} {text : List Char}
    (hknown : ∀ t ∈ scanFrom pos text, t.value.Known) :
    ∀ c ∈ text, isBlank c = true → isSpacing c = true := by
  fun_induction scanFrom pos text with
  | case1 pos => exact List.forall_mem_nil _
  | case2 pos c cs hc ih => exact List.forall_mem_cons.2 ⟨fun _ => hc, ih hknown⟩
  | case3 pos c cs hc piece ih =>
    obtain ⟨hhead, hrest⟩ := List.forall_mem_cons.1 hknown
    have hpiece : ∀ d ∈ piece, isBlank d = false :=
      isBlank_of_known hhead fun d hd => List.mem_takeWhile_imp hd
    rw [← piece_append c cs, List.forall_mem_append]
    refine ⟨?_, ih hrest⟩
    intro d hd hblank
    rw [hpiece d hd] at hblank
    cases hblank

/-! ## The end of a text -/

/-- A text without tokens is spacing. -/
theorem scanFrom_eq_nil_iff {pos : Nat} {text : List Char} :
    scanFrom pos text = [] ↔ ∀ c ∈ text, isSpacing c = true := by
  induction text generalizing pos with
  | nil => simp [scanFrom]
  | cons c cs ih =>
    rw [scanFrom, List.forall_mem_cons]
    by_cases hc : isSpacing c = true
    · rw [if_pos hc, ih]
      simp [hc]
    · rw [if_neg hc]
      simp [hc]

/-- **Where known tokens end.** Behind the last one there are only blanks. -/
theorem scanFrom_last {pos : Nat} {text : List Char}
    (hknown : ∀ t ∈ scanFrom pos text, t.value.Known) {t : Spanned Token}
    (ht : (scanFrom pos text).getLast? = some t) :
    trimEnd text ≠ [] ∧ t.span.stop = pos + byteLength (trimEnd text) := by
  fun_induction scanFrom pos text with
  | case1 pos => cases ht
  | case2 pos c cs hc ih =>
    obtain ⟨hne, hstop⟩ := ih hknown ht
    have htrim : trimEnd (c :: cs) = c :: trimEnd cs := trimEnd_append [c] hne
    rw [htrim]
    refine ⟨List.cons_ne_nil _ _, ?_⟩
    rw [hstop, byteLength_cons, Nat.add_assoc]
  | case3 pos c cs hc piece ih =>
    have htext : piece ++ cs.dropWhile (continues c) = c :: cs := piece_append c cs
    have hpiece : ∀ d ∈ piece, isBlank d = false :=
      isBlank_of_known (hknown _ List.mem_cons_self) fun d hd => List.mem_takeWhile_imp hd
    rw [← htext]
    cases hrest : scanFrom (pos + byteLength piece) (cs.dropWhile (continues c)) with
    | nil =>
      -- this token is the last one, and the rest is spacing
      have hspacing := scanFrom_eq_nil_iff.1 hrest
      obtain ⟨init, last, hlast⟩ : ∃ init last, piece = init ++ [last] :=
        ⟨_, _, (List.dropLast_append_getLast (List.cons_ne_nil _ _)).symm⟩
      have htrim : trimEnd (piece ++ cs.dropWhile (continues c)) = piece := by
        rw [hlast, List.append_assoc, List.singleton_append]
        exact trimEnd_of_last (hpiece last (by simp [hlast]))
          fun d hd => isBlank_of_isSpacing (hspacing d hd)
      rw [hrest, List.getLast?_singleton] at ht
      cases ht
      rw [htrim]
      exact ⟨List.cons_ne_nil _ _, rfl⟩
    | cons u tokens =>
      have hu : (u :: tokens).getLast? = some t := by
        rw [hrest, List.getLast?_cons_cons] at ht
        exact ht
      rw [← hrest] at hu
      obtain ⟨hne, hstop⟩ := ih (fun v hv => hknown v (List.mem_cons_of_mem _ hv)) hu
      rw [trimEnd_append piece hne]
      refine ⟨by simp [hne], ?_⟩
      rw [hstop, byteLength_append, Nat.add_assoc]

end Token

end Rulebook
