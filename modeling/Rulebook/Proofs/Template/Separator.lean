import Rulebook.Proofs.Formula.Respelling
import Rulebook.Proofs.Template.Directive
import Rulebook.Proofs.Text.Word

/-!
# What separates a formula from its keyword

The keyword of a directive ends at any blank. The text of a formula starts with that blank, and the tokens
of a formula have spacing between them only: spaces, tabs and line ends. So the other blanks end the
keyword and are refused right behind it.

* `parseChars_behind_spacing`: spacing in front of a formula is skipped.
* `blankError`: the error that another blank is. `parseChars_behind_blank`: **the first one in front of a
  formula is where it is refused.**
* `firstWord_dice`: the keyword of a formula in front of blanks.
* `dice_separated`: **a formula is read behind its keyword exactly if spacing stands between them.**
-/

namespace Rulebook

namespace Formula

open Token (isSpacing scanFrom)

variable {before w text : List Char} {f : Formula}

/-- A formula is the same one with spacing in front of it. -/
theorem parseChars_behind_spacing (hspacing : ∀ c ∈ w, isSpacing c = true)
    (h : parseChars text = .ok f) : parseChars (w ++ text) = .ok f := by
  have hstart : Token.scan ([] ++ text) = Token.scan [] ++ scanFrom (byteLength []) text := by
    rw [Token.scan, Token.scan, Token.scanFrom_nil]
    rfl
  have hapart : Apart (Token.scan []) (scanFrom (byteLength []) text) := by
    rw [Token.scan, Token.scanFrom_nil]
    exact fun t ht => by cases ht
  exact parseChars_respelled (.spaced (a := []) (parts_of_scan hstart) hapart hspacing) h

/-- The error of a blank at a position where a formula starts. -/
def blankError (pos : Nat) (c : Char) : ParseError :=
  .formula (.ofPiece pos [c]) (String.ofList [c]) s!"unexpected '{String.ofList [c]}'" ["'d'"]

theorem blankError_shift (pos offset : Nat) (c : Char) :
    (blankError pos c).shift offset = blankError (offset + pos) c := by
  rw [blankError, ParseError.shift, Span.ofPiece_shift, Nat.add_comm, blankError]

/-- A blank that is no spacing is a token of its own, and no token that is known. -/
theorem scan_behind_blank (hbefore : ∀ d ∈ before, isSpacing d = true) {c : Char}
    (hblank : isBlank c = true) (hc : isSpacing c = false) (text : List Char) :
    ∃ more, Token.scan (before ++ c :: text) =
      ⟨.unknown (String.ofList [c]), .ofPiece (byteLength before) [c]⟩ :: more := by
  obtain ⟨hdigit, hupper⟩ := Token.not_word_of_isBlank hblank
  rw [Token.scan, Token.scanFrom_spacing_append hbefore, Nat.zero_add,
    Token.scanFrom_single hc hdigit hupper, Token.ofPiece_blank hblank]
  exact ⟨_, rfl⟩

/-- **The first blank in front of a formula that is no spacing** is where it is refused. -/
theorem parseChars_behind_blank (hbefore : ∀ d ∈ before, isSpacing d = true) {c : Char}
    (hblank : isBlank c = true) (hc : isSpacing c = false) (text : List Char) :
    parseChars (before ++ c :: text) = .error (blankError (byteLength before) c) := by
  obtain ⟨more, hscan⟩ := scan_behind_blank hbefore hblank hc text
  have htext : before ++ [c] ++ text = before ++ c :: text := (List.append_cons _ _ _).symm
  have hread : readTerms .plus (Token.scan (before ++ c :: text)) =
      .error (.unexpected (some ⟨.unknown (String.ofList [c]), .ofPiece (byteLength before) [c]⟩)
        [.token .die]) := by
    rw [hscan, readTerms]
    rfl
  rw [parseChars, hread, blankError, ← htext]
  -- the span of a token is not empty, so it is not widened
  exact congrArg Except.error (toParseError_eq (if_pos (Nat.lt_add_of_pos_right (byteLength_pos
    (List.cons_ne_nil c [])))))

end Formula

namespace Template

open Token (isSpacing)

/-- Blanks end the keyword of a formula. -/
theorem firstWord_dice {w : List Char} (hne : w ≠ []) (hw : isBlankText w = true) (f : List Char) :
    firstWord? ("dice".toList ++ (w ++ f)) = some ([], "dice".toList, w ++ f) := by
  have hsolid : ∀ d ∈ "dice".toList, isBlank d = false := by simp [isBlank]
  have hword := firstWord_of_blanks (show isBlankText [] = true from rfl)
    (show "dice".toList ≠ [] by decide) hsolid hw hne f
  exact firstWord?_eq_some_iff.2 hword

/-- **What separates a formula from its keyword.** A formula is read behind any spacing as it is on its
own, and its text is kept without the blanks around it. Behind other blanks it is not: the directive is
refused at the first blank that is no spacing. -/
theorem dice_separated {w f : String} {formula : Formula} (start : Nat)
    (hf : Formula.parse f = .ok formula) (hne : w ≠ "") (hw : isBlankText w.toList = true) :
    (Node.ofBody start ("dice" ++ w ++ f).toList =
        .ok (.dice ⟨formula, String.ofList (trim f.toList)⟩) ↔
      ∀ c ∈ w.toList, isSpacing c = true) ∧
    ∀ before c after, w.toList = before ++ c :: after → (∀ d ∈ before, isSpacing d = true) →
      isSpacing c = false → Node.ofBody start ("dice" ++ w ++ f).toList =
        .error (Formula.blankError (start + 6 + byteLength before) c) := by
  have hblank := isBlankText_iff.1 hw
  have hbody : ("dice" ++ w ++ f).toList = "dice".toList ++ (w.toList ++ f.toList) := by simp
  have hpos : start + 2 + byteLength [] + byteLength "dice".toList = start + 6 := rfl
  rw [hbody, ofBody_dice start (firstWord_dice (by simpa using hne) hw f.toList), hpos]
  refine ⟨⟨fun hread => ?_, fun hspacing => ?_⟩, ?_⟩
  · -- what is read has known tokens only, and no blank but spacing between them
    obtain ⟨d, hd, -⟩ := map_eq_ok hread
    rcases readDice_cases (start + 6) (w.toList ++ f.toList) with ⟨g, hg, -⟩ | ⟨e, -, he⟩
    · have hknown := Token.isSpacing_of_known (Formula.known_of_parseChars hg)
      exact fun c hc => hknown c (List.mem_append_left _ hc) (hblank c hc)
    · rw [he] at hd
      cases hd
  · rw [readDice, Formula.parseChars_behind_spacing hspacing hf, trim, trimStart_append hblank]
    rfl
  · intro before c after hsplit hbefore hc
    have hrefused := Formula.parseChars_behind_blank hbefore (hblank c (by simp [hsplit])) hc
      (after ++ f.toList)
    rw [readDice, hsplit, List.append_assoc, List.cons_append, hrefused, ← Formula.blankError_shift]
    rfl

/-- A formula behind a tab and a line feed, and one behind a space and an ideographic space. -/
theorem dice_separated_wide :
    Formula.parse " 2d6+1 " = .ok ⟨[⟨.plus, .dice ⟨2, 6, none⟩⟩, ⟨.plus, .flat 1⟩]⟩ ∧
    isBlankText "\t\n".toList = true ∧ isBlankText " \u3000".toList = true ∧
    Node.ofBody 0 "dice\t\n 2d6+1 ".toList =
      .ok (.dice ⟨⟨[⟨.plus, .dice ⟨2, 6, none⟩⟩, ⟨.plus, .flat 1⟩]⟩, "2d6+1"⟩) ∧
    Node.ofBody 0 "dice \u3000 2d6+1 ".toList = .error (Formula.blankError 7 '\u3000') := by
  have hf : Formula.parse " 2d6+1 " = .ok ⟨[⟨.plus, .dice ⟨2, 6, none⟩⟩, ⟨.plus, .flat 1⟩]⟩ := by decide +kernel
  have hspacing : isBlankText "\t\n".toList = true := by decide
  have hwide : isBlankText " \u3000".toList = true := by decide
  have htrim : trim " 2d6+1 ".toList = "2d6+1".toList := by decide +kernel
  obtain ⟨hread, -⟩ := dice_separated 0 hf (by decide) hspacing
  obtain ⟨-, hrefused⟩ := dice_separated 0 hf (by decide) hwide
  rw [htrim, String.ofList_toList] at hread
  refine ⟨hf, hspacing, hwide, hread.2 (by simp [isSpacing]), ?_⟩
  exact hrefused [' '] '\u3000' [] rfl (List.forall_mem_singleton.2 rfl) rfl

/-- A no-break space separates the words of a reference, but not a formula from its keyword. -/
theorem dice_separated_unlike_ref :
    ¬ (∀ (w f : String) (formula : Formula) (start : Nat), Formula.parse f = .ok formula → w ≠ "" →
      isBlankText w.toList = true → Node.ofBody start ("dice" ++ w ++ f).toList =
        .ok (.dice ⟨formula, String.ofList (trim f.toList)⟩)) ∧
    Node.ofBody 0 "dice\u00a01d6".toList = .error (Formula.blankError 6 '\u00a0') ∧
    Node.ofBody 0 "ref\u00a0items\u00a0a".toList =
      .ok (.ref ⟨⟨.items, "a"⟩, none, "%\x7bref\u00a0items\u00a0a\x7d"⟩) := by
  have hrefused : Node.ofBody 0 "dice\u00a01d6".toList = .error (Formula.blankError 6 '\u00a0') := by
    decide +kernel
  refine ⟨fun h => ?_, hrefused, by decide +kernel⟩
  have hread := h "\u00a0" "1d6" ⟨[⟨.plus, .dice ⟨1, 6, none⟩⟩]⟩ 0 (by decide +kernel) (by decide) (by decide)
  exact absurd (hread.symm.trans hrefused) (by simp)

end Template

end Rulebook
