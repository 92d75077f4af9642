import Mathlib.Data.List.DropRight
import Mathlib.Data.List.Forall2
import Rulebook.Proofs.Text.Lines
import Rulebook.Proofs.Text.Word
import Rulebook.Template.Normalize

/-!
# Indentation of a template text

What the normal form takes away from a text that is written as an indented block, and what it does
not depend on.

* `trimLines_blank`, `trimLines_map`, `exists_eq_append_trimLines`: the blank lines around a block.
* `commonIndentation_le`, `commonIndentation_attained`: **the common indentation** is that of the line
  with the least one. `commonIndentation_indent`: it grows with every line.
* `Leaves`: what is left of a line without indentation. `leaves_cutLine`: so it is when a line is cut.
* `Flush`: lines without blanks around them and without common indentation.
  `normalizeLines_flush`: **the normal form is flush.**
* `Unindented`: what is left of a block of lines.
  `normalizeLines_unindented`, `Flush.eq_normalizeLines`: **the normal form is what is left of a block, and
  the only such lines that are flush.**
* `indent`: a text with more indentation. `normalizeLines_indent`: **it has the same normal form.**
* `normalize_unindents`: all of this for texts.
-/

namespace Rulebook.Template

/-! ## Blank lines around a block -/

theorem trimLines_of_blank {ls : List (List Char)} (h : ∀ l ∈ ls, isBlankText l = true) :
    trimLines ls = [] := by
  rw [trimLines, List.dropWhile_eq_nil_iff.2 h]
  rfl

/-- Blank lines around a block are no part of it. -/
theorem trimLines_blank {before ls after : List (List Char)}
    (hbefore : ∀ l ∈ before, isBlankText l = true) (hafter : ∀ l ∈ after, isBlankText l = true) :
    trimLines (before ++ ls ++ after) = trimLines ls := by
  have hreverse : ∀ l ∈ after.reverse, isBlankText l = true := fun l hl =>
    hafter l (List.mem_reverse.1 hl)
  rw [trimLines, trimLines, List.append_assoc, List.dropWhile_append_of_pos hbefore]
  by_cases hls : ls.dropWhile isBlankText = []
  · have hall : ∀ l ∈ ls ++ after, isBlankText l = true :=
      List.forall_mem_append.2 ⟨List.dropWhile_eq_nil_iff.1 hls, hafter⟩
    rw [List.dropWhile_eq_nil_iff.2 hall, hls]
  · rw [List.dropWhile_append, if_neg (by simpa using hls), List.reverse_append,
      List.dropWhile_append_of_pos hreverse]

/-- A change of lines that keeps the blank ones blank keeps the block. -/
theorem trimLines_map {f : List Char → List Char} (h : ∀ l, isBlankText (f l) = isBlankText l)
    (ls : List (List Char)) : trimLines (ls.map f) = (trimLines ls).map f := by
  have hf : isBlankText ∘ f = isBlankText := funext h
  rw [trimLines, trimLines, List.dropWhile_map, hf, ← List.map_reverse, List.dropWhile_map, hf,
    List.map_reverse]

theorem mem_of_mem_trimLines {ls : List (List Char)} {l : List Char} (h : l ∈ trimLines ls) :
    l ∈ ls :=
  List.dropWhile_subset _ ((List.rdropWhile_prefix isBlankText _).subset h)

theorem trimLines_eq (ls : List (List Char)) :
    trimLines ls = (ls.dropWhile isBlankText).rdropWhile isBlankText := rfl

/-- Lines are a block with blank lines around it. -/
theorem exists_eq_append_trimLines (ls : List (List Char)) :
    ∃ before after, ls = before ++ trimLines ls ++ after ∧
      (∀ l ∈ before, isBlankText l = true) ∧ ∀ l ∈ after, isBlankText l = true := by
  refine ⟨ls.takeWhile isBlankText, (ls.dropWhile isBlankText).rtakeWhile isBlankText, ?_,
    fun l hl => List.mem_takeWhile_imp hl, fun l hl => List.mem_takeWhile_imp (List.mem_reverse.1 hl)⟩
  rw [trimLines_eq, List.append_assoc, List.rdropWhile_append_rtakeWhile,
    List.takeWhile_append_dropWhile]

/-- A block starts and ends with a line that is not blank, if there is one at all. -/
theorem trimLines_ends {ls : List (List Char)} (h : ∃ l ∈ ls, isBlankText l = false) :
    (∃ l ∈ (trimLines ls).head?, isBlankText l = false) ∧
      ∃ l ∈ (trimLines ls).getLast?, isBlankText l = false := by
  obtain ⟨l, hl, hsolid⟩ := h
  -- the first line that is not blank stays in front when the end is trimmed
  obtain ⟨first, rest, hfirst⟩ : ∃ first rest, ls.dropWhile isBlankText = first :: rest := by
    refine List.exists_cons_of_ne_nil fun hnil => ?_
    rw [List.dropWhile_eq_nil_iff.1 hnil l hl] at hsolid
    cases hsolid
  have hsolid : isBlankText first = false := by
    have hnot := List.head?_dropWhile_not isBlankText ls
    rw [hfirst] at hnot
    simpa using hnot
  obtain ⟨cut, hcut⟩ := List.rdropWhile_prefix isBlankText (ls.dropWhile isBlankText)
  have hne : trimLines ls ≠ [] := by
    intro hnil
    have hall := List.rdropWhile_eq_nil_iff.1 ((trimLines_eq ls).symm.trans hnil)
    rw [hall first (by simp [hfirst])] at hsolid
    cases hsolid
  refine ⟨⟨first, ?_, hsolid⟩, ⟨(trimLines ls).getLast hne, List.getLast?_eq_some_getLast hne, ?_⟩⟩
  · rw [← trimLines_eq] at hcut
    rw [← List.head?_append_of_ne_nil _ hne, hcut, hfirst]
    rfl
  · have hlast := List.rdropWhile_last_not isBlankText (ls.dropWhile isBlankText) hne
    simp only [← trimLines_eq] at hlast
    exact Bool.eq_false_iff.2 hlast

/-- Nothing is cut from lines that start and end with one that is not blank. -/
theorem trimLines_of_ends {ls : List (List Char)} (hstarts : ∃ l ∈ ls.head?, isBlankText l = false)
    (hends : ∃ l ∈ ls.getLast?, isBlankText l = false) : trimLines ls = ls := by
  obtain ⟨first, hfirst, hfirstSolid⟩ := hstarts
  obtain ⟨last, hlast, hlastSolid⟩ := hends
  obtain ⟨rest, rfl⟩ := List.head?_eq_some_iff.1 hfirst
  have hdrop : (first :: rest).dropWhile isBlankText = first :: rest :=
    List.dropWhile_cons_of_neg (by simp [hfirstSolid])
  rw [trimLines_eq, hdrop, List.rdropWhile_eq_self_iff]
  intro hne
  rw [List.getLast?_eq_some_getLast hne] at hlast
  cases hlast
  simp [hlastSolid]

/-! ## The indentation of a line -/

/-- A text of indentation: spaces and tabs. -/
def IsIndent (p : List Char) : Prop := ∀ c ∈ p, c = ' ' ∨ c = '\t'

theorem IsIndent.blank {p : List Char} (h : IsIndent p) : isBlankText p = true := by
  rw [isBlankText_iff]
  intro c hc
  rcases h c hc with rfl | rfl <;> decide

theorem isBlankText_append (a b : List Char) :
    isBlankText (a ++ b) = (isBlankText a && isBlankText b) := List.all_append

/-- More indentation in front of a line counts in full. -/
theorem indentation_append {p : List Char} (hp : IsIndent p) (l : List Char) :
    indentation (p ++ l) = p.length + indentation l := by
  have hindent : ∀ c ∈ p, (c == ' ' || c == '\t') = true := fun c hc => by simpa using hp c hc
  rw [indentation, List.takeWhile_append_of_pos hindent, List.length_append, indentation]

/-- What a line starts with, up to its indentation, is indentation. -/
theorem take_isIndent {n : Nat} {l : List Char} (h : n ≤ indentation l) : IsIndent (l.take n) := by
  intro c hc
  have htaken : l.take n <+: l.takeWhile fun c => c == ' ' || c == '\t' :=
    List.prefix_of_prefix_length_le (List.take_prefix n l) (List.takeWhile_prefix _)
      ((List.length_take_le n l).trans h)
  simpa using List.mem_takeWhile_imp (htaken.subset hc)

theorem length_take_indentation {n : Nat} {l : List Char} (h : n ≤ indentation l) :
    (l.take n).length = n :=
  List.length_take_of_le (h.trans (List.takeWhile_prefix _).length_le)

/-! ## The common indentation -/

theorem commonIndentation_le {ls : List (List Char)} {l : List Char} (hl : l ∈ ls)
    (hsolid : isBlankText l = false) : commonIndentation ls ≤ indentation l := by
  have hmem : indentation l ∈ (ls.filter (!isBlankText ·)).map indentation :=
    List.mem_map_of_mem (List.mem_filter.2 ⟨hl, by simp [hsolid]⟩)
  exact List.min?_getD_le_of_mem hmem

theorem commonIndentation_attained {ls : List (List Char)}
    (h : ∃ l ∈ ls, isBlankText l = false) :
    ∃ l ∈ ls, isBlankText l = false ∧ indentation l = commonIndentation ls := by
  obtain ⟨l, hl, hsolid⟩ := h
  cases hmin : ((ls.filter (!isBlankText ·)).map indentation).min? with
  | none =>
    rw [List.min?_eq_none_iff, List.map_eq_nil_iff, List.filter_eq_nil_iff] at hmin
    exact absurd (hmin l hl) (by simp [hsolid])
  | some n =>
    obtain ⟨l, hl, rfl⟩ := List.mem_map.1 (List.min?_mem hmin)
    obtain ⟨hl, hsolid⟩ := List.mem_filter.1 hl
    exact ⟨l, hl, by simpa using hsolid, by rw [commonIndentation, hmin]; rfl⟩

/-- Blank lines around a block do not count for its indentation. -/
theorem commonIndentation_trimLines (ls : List (List Char)) :
    commonIndentation (trimLines ls) = commonIndentation ls := by
  obtain ⟨before, after, heq, hbefore, hafter⟩ := exists_eq_append_trimLines ls
  have hnone : ∀ ks : List (List Char), (∀ l ∈ ks, isBlankText l = true) →
      ks.filter (!isBlankText ·) = [] := fun ks h =>
    List.filter_eq_nil_iff.2 fun l hl => by simp [h l hl]
  conv_rhs => rw [heq]
  rw [commonIndentation, commonIndentation, List.filter_append, List.filter_append, hnone before hbefore,
    hnone after hafter, List.nil_append, List.append_nil]

/-- A line with more indentation. A blank line stays as it is. -/
def indentLine (p l : List Char) : List Char := if isBlankText l then l else p ++ l

theorem isBlankText_indentLine {p : List Char} (hp : IsIndent p) (l : List Char) :
    isBlankText (indentLine p l) = isBlankText l := by
  unfold indentLine
  split
  · rfl
  · rw [isBlankText_append, hp.blank, Bool.true_and]

theorem indentLine_of_solid {p l : List Char} (h : isBlankText l = false) :
    indentLine p l = p ++ l := if_neg (by simp [h])

/-- **The common indentation grows with that of every line.** -/
theorem commonIndentation_indent {p : List Char} (hp : IsIndent p) {ls : List (List Char)}
    (h : ∃ l ∈ ls, isBlankText l = false) :
    commonIndentation (ls.map (indentLine p)) = p.length + commonIndentation ls := by
  obtain ⟨l, hl, hsolid, hleast⟩ := commonIndentation_attained h
  have hle : commonIndentation (ls.map (indentLine p)) ≤ indentation (indentLine p l) :=
    commonIndentation_le (List.mem_map_of_mem hl) (by rw [isBlankText_indentLine hp, hsolid])
  have hsolids : ∃ m ∈ ls.map (indentLine p), isBlankText m = false :=
    ⟨_, List.mem_map_of_mem hl, by rw [isBlankText_indentLine hp, hsolid]⟩
  obtain ⟨m, hm, hmsolid, hmleast⟩ := commonIndentation_attained hsolids
  obtain ⟨k, hk, rfl⟩ := List.mem_map.1 hm
  rw [isBlankText_indentLine hp] at hmsolid
  have hge : commonIndentation ls ≤ indentation k := commonIndentation_le hk hmsolid
  rw [indentLine_of_solid hsolid, indentation_append hp] at hle
  rw [indentLine_of_solid hmsolid, indentation_append hp] at hmleast
  omega

/-! ## The normal form -/

/-- A line without its first `n` characters. Nothing stays of a blank one. -/
def cutLine (n : Nat) (l : List Char) : List Char := if isBlankText l then [] else l.drop n

theorem normalizeLines_eq (ls : List (List Char)) :
    normalizeLines ls = (trimLines ls).map (cutLine (commonIndentation (trimLines ls))) := rfl

theorem take_append_cutLine {n : Nat} {l : List Char} (hsolid : isBlankText l = false) :
    l.take n ++ cutLine n l = l := by
  rw [cutLine, if_neg (by simp [hsolid]), List.take_append_drop]

/-- **What is left of a line without `n` characters of indentation**: nothing of a blank one, and else the
text behind these spaces and tabs. -/
structure Leaves (n : Nat) (l r : List Char) : Prop where
  blank : isBlankText l = true → r = []
  solid : isBlankText l = false → ∃ p, IsIndent p ∧ p.length = n ∧ l = p ++ r

theorem leaves_cutLine {n : Nat} {l : List Char} (h : isBlankText l = false → n ≤ indentation l) :
    Leaves n l (cutLine n l) where
  blank hblank := if_pos hblank
  solid hsolid := ⟨l.take n, take_isIndent (h hsolid), length_take_indentation (h hsolid),
    (take_append_cutLine hsolid).symm⟩

namespace Leaves

variable {n : Nat} {l r : List Char}

/-- No other text is left of a line. -/
theorem eq_cutLine (h : Leaves n l r) : cutLine n l = r := by
  unfold cutLine
  split
  · rename_i hblank
    exact (h.blank hblank).symm
  · rename_i hsolid
    obtain ⟨p, -, rfl, rfl⟩ := h.solid (Bool.eq_false_iff.2 hsolid)
    exact List.drop_left

theorem isBlankText_eq (h : Leaves n l r) : isBlankText r = isBlankText l := by
  cases hl : isBlankText l with
  | true =>
    rw [h.blank hl]
    rfl
  | false =>
    obtain ⟨p, hp, -, rfl⟩ := h.solid hl
    rwa [isBlankText_append, hp.blank, Bool.true_and] at hl

theorem indentation_eq (h : Leaves n l r) (hl : isBlankText l = false) :
    indentation l = n + indentation r := by
  obtain ⟨p, hp, rfl, rfl⟩ := h.solid hl
  exact indentation_append hp r

end Leaves

/-- The same line is left of an indented one, if that much more is cut. -/
theorem cutLine_indentLine {p : List Char} (hp : IsIndent p) (n : Nat) (l : List Char) :
    cutLine (p.length + n) (indentLine p l) = cutLine n l := by
  unfold cutLine
  rw [isBlankText_indentLine hp]
  split
  · rfl
  · rename_i hsolid
    rw [indentLine_of_solid (Bool.eq_false_iff.2 hsolid), List.drop_append, Nat.add_sub_cancel_left,
      List.drop_eq_nil_of_le (Nat.le_add_right _ _), List.nil_append]

/-- **Lines that are flush**: none around them is blank, blank ones between them are empty, and some
line has no indentation. -/
structure Flush (ls : List (List Char)) : Prop where
  starts : ∃ l ∈ ls.head?, isBlankText l = false
  ends : ∃ l ∈ ls.getLast?, isBlankText l = false
  clean : ∀ l ∈ ls, isBlankText l = true → l = []
  touches : ∃ l ∈ ls, isBlankText l = false ∧ ∀ c ∈ l.head?, c ≠ ' ' ∧ c ≠ '\t'

theorem indentation_eq_zero_iff {l : List Char} :
    indentation l = 0 ↔ ∀ c ∈ l.head?, c ≠ ' ' ∧ c ≠ '\t' := by
  cases l with
  | nil => simp [indentation]
  | cons c cs => simp [indentation, List.takeWhile_cons]

/-- **The normal form of lines is flush**, unless all of them are blank. -/
theorem normalizeLines_flush {ls : List (List Char)} (h : ∃ l ∈ ls, isBlankText l = false) :
    Flush (normalizeLines ls) := by
  obtain ⟨⟨first, hfirst, hfirstSolid⟩, ⟨last, hlast, hlastSolid⟩⟩ := trimLines_ends h
  obtain ⟨l, hl, hsolid, hleast⟩ :=
    commonIndentation_attained ⟨first, List.mem_of_mem_head? hfirst, hfirstSolid⟩
  rw [normalizeLines_eq]
  set n := commonIndentation (trimLines ls)
  -- no line of the block loses more than its own indentation
  have hleft : ∀ k ∈ trimLines ls, Leaves n k (cutLine n k) := fun k hk =>
    leaves_cutLine (commonIndentation_le hk)
  refine ⟨⟨cutLine n first, ?_, ?_⟩, ⟨cutLine n last, ?_, ?_⟩, ?_,
    ⟨cutLine n l, List.mem_map_of_mem hl, ?_, ?_⟩⟩
  · rw [List.head?_map]
    exact Option.mem_map_of_mem _ hfirst
  · rw [(hleft first (List.mem_of_mem_head? hfirst)).isBlankText_eq, hfirstSolid]
  · rw [List.getLast?_map]
    exact Option.mem_map_of_mem _ hlast
  · rw [(hleft last (List.mem_of_mem_getLast? hlast)).isBlankText_eq, hlastSolid]
  · intro k hk hblank
    obtain ⟨k, hmem, rfl⟩ := List.mem_map.1 hk
    rw [(hleft k hmem).isBlankText_eq] at hblank
    exact (hleft k hmem).blank hblank
  · rw [(hleft l hl).isBlankText_eq, hsolid]
  · have hindent := (hleft l hl).indentation_eq hsolid
    exact indentation_eq_zero_iff.1 (by omega)

/-- **Indented lines have the same normal form**, whatever blank lines are around them. -/
theorem normalizeLines_indent {p : List Char} (hp : IsIndent p) {before after : List (List Char)}
    (hbefore : ∀ l ∈ before, isBlankText l = true) (hafter : ∀ l ∈ after, isBlankText l = true)
    (ls : List (List Char)) :
    normalizeLines (before ++ ls.map (indentLine p) ++ after) = normalizeLines ls := by
  rw [normalizeLines_eq, normalizeLines_eq, trimLines_blank hbefore hafter,
    trimLines_map (isBlankText_indentLine hp)]
  by_cases hall : ∀ l ∈ ls, isBlankText l = true
  · rw [trimLines_of_blank hall]
    rfl
  · push Not at hall
    obtain ⟨l, hl, hsolid⟩ := hall
    obtain ⟨⟨first, hfirst, hfirstSolid⟩, -⟩ := trimLines_ends ⟨l, hl, Bool.eq_false_iff.2 hsolid⟩
    rw [commonIndentation_indent hp ⟨first, List.mem_of_mem_head? hfirst, hfirstSolid⟩, List.map_map]
    exact List.map_congr_left fun k _ => cutLine_indentLine hp _ k

/-! ## What is left of a block -/

/-- **Lines without the indentation of their block.** Around the block there are blank lines. Each line of
the block is without `n` characters of indentation. -/
def Unindented (n : Nat) (ls rs : List (List Char)) : Prop :=
  ∃ before block after, ls = before ++ block ++ after ∧ (∀ l ∈ before, isBlankText l = true) ∧
    (∀ l ∈ after, isBlankText l = true) ∧ List.Forall₂ (Leaves n) block rs

/-- **The normal form of lines is without their common indentation.** -/
theorem normalizeLines_unindented (ls : List (List Char)) :
    Unindented (commonIndentation ls) ls (normalizeLines ls) := by
  obtain ⟨before, after, hls, hbefore, hafter⟩ := exists_eq_append_trimLines ls
  refine ⟨before, trimLines ls, after, hls, hbefore, hafter, ?_⟩
  rw [normalizeLines_eq, commonIndentation_trimLines, List.forall₂_map_right_iff, List.forall₂_same]
  exact fun l hl => leaves_cutLine (commonIndentation_le (mem_of_mem_trimLines hl))

/-- **Flush lines are the normal form of all lines that they are left of.** -/
theorem Flush.eq_normalizeLines {n : Nat} {ls rs : List (List Char)} (h : Flush rs)
    (hleft : Unindented n ls rs) : rs = normalizeLines ls := by
  obtain ⟨before, block, after, rfl, hbefore, hafter, hlines⟩ := hleft
  -- line by line, the texts that are left are those of the block without `n` characters
  obtain rfl : block.map (cutLine n) = rs := by
    rw [← List.forall₂_eq_eq_eq, List.forall₂_map_left_iff]
    exact hlines.imp fun _ _ hl => hl.eq_cutLine
  have hleaves : ∀ l ∈ block, Leaves n l (cutLine n l) := by
    rwa [List.forall₂_map_right_iff, List.forall₂_same] at hlines
  have hsolid : ∀ l ∈ block, isBlankText (cutLine n l) = false → isBlankText l = false :=
    fun l hl hcut => (hleaves l hl).isBlankText_eq ▸ hcut
  have htrim : trimLines (before ++ block ++ after) = block := by
    obtain ⟨first, hfirst, hfirstSolid⟩ := h.starts
    obtain ⟨last, hlast, hlastSolid⟩ := h.ends
    rw [List.head?_map] at hfirst
    rw [List.getLast?_map] at hlast
    obtain ⟨l, hl, rfl⟩ := Option.map_eq_some_iff.1 hfirst
    obtain ⟨k, hk, rfl⟩ := Option.map_eq_some_iff.1 hlast
    rw [trimLines_blank hbefore hafter]
    exact trimLines_of_ends ⟨l, hl, hsolid l (List.mem_of_mem_head? hl) hfirstSolid⟩
      ⟨k, hk, hsolid k (List.mem_of_mem_getLast? hk) hlastSolid⟩
  have hcommon : commonIndentation block = n := by
    obtain ⟨r, hr, hrSolid, hhead⟩ := h.touches
    obtain ⟨l, hl, rfl⟩ := List.mem_map.1 hr
    have hlSolid := hsolid l hl hrSolid
    have hle := commonIndentation_le hl hlSolid
    have hindent := (hleaves l hl).indentation_eq hlSolid
    rw [indentation_eq_zero_iff.2 hhead] at hindent
    obtain ⟨k, hk, hkSolid, hattained⟩ := commonIndentation_attained ⟨l, hl, hlSolid⟩
    have hleast := (hleaves k hk).indentation_eq hkSolid
    omega
  rw [normalizeLines_eq, htrim, hcommon]

/-! ## Texts -/

/-- Characters with more indentation in front of each line that is not blank. Line ends stay as they
are. -/
def indentChars (p text : List Char) : List Char :=
  joinLines ((text.splitOn '\n').map (indentLine p))

/-- A text with more indentation in front of each line that is not blank. -/
def indent (p text : String) : String := String.ofList (indentChars p.toList text.toList)

theorem isBlankText_bareLine (l : List Char) : isBlankText (bareLine l) = isBlankText l := by
  fun_induction bareLine l with
  | case1 => rfl
  | case2 => rfl
  | case3 c cs hc ih => exact congrArg (isBlank c && ·) ih

theorem bareLine_append (p : List Char) {l : List Char} (h : l ≠ []) :
    bareLine (p ++ l) = p ++ bareLine l := by
  induction p with
  | nil => rfl
  | cons c p ih => rw [List.cons_append, bareLine_cons c (by simp [h]), ih, List.cons_append]

theorem bareLine_indentLine (p l : List Char) :
    bareLine (indentLine p l) = indentLine p (bareLine l) := by
  unfold indentLine
  rw [isBlankText_bareLine]
  split
  · rfl
  · rename_i hsolid
    exact bareLine_append p (by rintro rfl; exact hsolid rfl)

theorem feed_not_mem_indentLine {p l : List Char} (hp : IsIndent p) (h : '\n' ∉ l) :
    '\n' ∉ indentLine p l := by
  unfold indentLine
  split
  · exact h
  · rw [List.mem_append, not_or]
    refine ⟨fun hmem => ?_, h⟩
    rcases hp _ hmem with hc | hc <;> cases hc

theorem indentLine_ne_nil {p l : List Char} (h : l ≠ []) : indentLine p l ≠ [] := by
  unfold indentLine
  split <;> simp [h]

/-- **The lines of an indented text** are the indented lines of the text. -/
theorem lines_indentChars {p : List Char} (hp : IsIndent p) (text : List Char) :
    lines (indentChars p text) = (lines text).map (indentLine p) := by
  have key : ∀ ls : List (List Char), (∀ l ∈ ls, '\n' ∉ l) →
      lines (joinLines (ls.map (indentLine p))) = (lines (joinLines ls)).map (indentLine p) := by
    intro ls h
    induction ls with
    | nil => rfl
    | cons l ls ih =>
      obtain ⟨hl, hls⟩ := List.forall_mem_cons.1 h
      have hindent := feed_not_mem_indentLine hp hl
      rcases eq_or_ne ls [] with rfl | hne
      · rcases eq_or_ne l [] with rfl | hl'
        · rfl
        · rw [List.map_singleton, joinLines, joinLines, lines_of_line (indentLine_ne_nil hl') hindent,
            lines_of_line hl' hl, List.map_singleton]
      · rw [List.map_cons, joinLines_cons _ (by simp [hne]), joinLines_cons l hne, lines_feed hindent,
          lines_feed hl, ih hls, List.map_cons, bareLine_indentLine]
  rw [indentChars, key _ fun l => feed_not_mem_splitOn, joinLines_splitOn]

theorem joinLines_concat_nil {ls : List (List Char)} (h : ls ≠ []) :
    joinLines (ls ++ [[]]) = joinLines ls ++ ['\n'] := by
  induction ls with
  | nil => exact absurd rfl h
  | cons l ls ih =>
    rcases eq_or_ne ls [] with rfl | hls
    · rfl
    · rw [List.cons_append, joinLines_cons l (by simp), ih hls, joinLines_cons l hls]
      simp

/-- An indented text ends where the text does. -/
theorem wholeLines_indentChars (p : List Char) {text : List Char} (h : WholeLines text) :
    WholeLines (indentChars p text) := by
  rcases List.eq_nil_or_concat text with rfl | ⟨init, c, rfl⟩
  · intro c hc
    cases hc
  · have hc : c = '\n' := h c (by simp)
    subst hc
    rw [List.concat_eq_append, indentChars, List.splitOn_append_cons_self, List.splitOn_nil,
      List.map_append, List.map_singleton]
    show WholeLines (joinLines (_ ++ [[]]))
    rw [joinLines_concat_nil (by simp [List.splitOn_ne_nil])]
    intro d hd
    simpa [eq_comm] using hd

theorem lines_blank {text : List Char} (h : isBlankText text = true) :
    ∀ l ∈ lines text, isBlankText l = true := fun _ hl =>
  isBlankText_iff.2 fun d hd => isBlankText_iff.1 h d (mem_of_mem_lines hl hd).1

/-- No line of a normal form has a line feed in it. -/
theorem feed_not_mem_normalizeLines {text l : List Char} (h : l ∈ normalizeLines (lines text)) :
    '\n' ∉ l := by
  rw [normalizeLines_eq] at h
  obtain ⟨k, hk, rfl⟩ := List.mem_map.1 h
  have hfeed : '\n' ∉ k := fun hmem => (mem_of_mem_lines (mem_of_mem_trimLines hk) hmem).2 rfl
  unfold cutLine
  split
  · exact List.not_mem_nil
  · exact fun hmem => hfeed (List.mem_of_mem_drop hmem)

/-- The lines of a normal form stand between its line feeds. -/
theorem splitOn_normalizeChars {text : List Char} (h : ∃ l ∈ lines text, isBlankText l = false) :
    (normalizeChars text).splitOn '\n' = normalizeLines (lines text) := by
  refine splitOn_joinLines (fun hnil => ?_) fun l => feed_not_mem_normalizeLines
  obtain ⟨l, hl, -⟩ := (normalizeLines_flush h).starts
  rw [hnil] at hl
  cases hl

/-- Nothing is left exactly of blank lines. -/
theorem normalizeChars_eq_nil_iff {text : List Char} :
    normalizeChars text = [] ↔ ∀ l ∈ lines text, isBlankText l = true := by
  constructor
  · intro h
    by_contra hall
    push Not at hall
    obtain ⟨l, hl, hsolid⟩ := hall
    have hsome : ∃ l ∈ lines text, isBlankText l = false := ⟨l, hl, Bool.eq_false_iff.2 hsolid⟩
    obtain ⟨first, hfirst, hfirstSolid⟩ := (normalizeLines_flush hsome).starts
    rw [← splitOn_normalizeChars hsome, h, List.splitOn_nil] at hfirst
    cases hfirst
    cases hfirstSolid
  · intro h
    rw [normalizeChars, normalizeLines_eq, trimLines_of_blank h]
    rfl

/-- **The normal form takes block indentation away, and nothing else.** It is empty exactly for a text
of blank lines. The lines of any other normal form are flush, and they are those of a block in the text:
around the block there are blank lines, and each line of it that is not blank is spaces and tabs, as many
as the line with the fewest has, followed by what the normal form keeps of it. No other text is flush and
left of these lines in this way.

The normal form does not depend on the block: more spaces and tabs in front of every line that is not
blank, and blank lines in front of the text or behind its last line feed, change nothing. -/
theorem normalize_unindents :
    (∀ raw : String, normalize raw = "" ↔ ∀ l ∈ lines raw.toList, isBlankText l = true) ∧
    (∀ raw : String, (∃ l ∈ lines raw.toList, isBlankText l = false) →
      Flush ((normalize raw).toList.splitOn '\n') ∧
      Unindented (commonIndentation (lines raw.toList)) (lines raw.toList)
        ((normalize raw).toList.splitOn '\n')) ∧
    (∀ (raw text : String) (n : Nat), Flush (text.toList.splitOn '\n') →
      Unindented n (lines raw.toList) (text.toList.splitOn '\n') → text = normalize raw) ∧
    ∀ p raw before after : String, IsIndent p.toList →
      isBlankText before.toList = true → WholeLines before.toList →
      isBlankText after.toList = true → (after = "" ∨ WholeLines raw.toList) →
      normalize (before ++ indent p raw ++ after) = normalize raw := by
  refine ⟨fun raw => ?_, fun raw h => ?_, fun raw text n hflush hleft => ?_, ?_⟩
  · rw [← normalizeChars_eq_nil_iff, normalize, String.ofList_eq_empty_iff]
  · rw [normalize, String.toList_ofList, splitOn_normalizeChars h]
    exact ⟨normalizeLines_flush h, normalizeLines_unindented _⟩
  · rw [normalize, normalizeChars, ← hflush.eq_normalizeLines hleft, joinLines_splitOn,
      String.ofList_toList]
  · intro p raw before after hp hbefore hwhole hafter hend
    have hlines : lines (before ++ indent p raw ++ after).toList =
        lines before.toList ++ (lines raw.toList).map (indentLine p.toList) ++
          lines after.toList := by
      rw [String.toList_append, String.toList_append, indent, String.toList_ofList,
        List.append_assoc, lines_append hwhole, List.append_assoc, ← lines_indentChars hp]
      rcases hend with rfl | hraw
      · simp [lines]
      · rw [lines_append (wholeLines_indentChars p.toList hraw)]
    rw [normalize, normalize, normalizeChars, normalizeChars, hlines,
      normalizeLines_indent hp (lines_blank hbefore) (lines_blank hafter)]

/-- A block with both kinds of line ends, which is one with two spaces of indentation. It is the same
when it is moved to the right by a tab and a space, between a line with an em space in it and one that is
not ended. -/
theorem normalize_unindents_block :
    (∃ l ∈ lines "  Hit:\r\n\n    1d6\n".toList, isBlankText l = false) ∧
    Flush ("Hit:\n\n  1d6".toList.splitOn '\n') ∧
    Unindented 2 (lines "  Hit:\r\n\n    1d6\n".toList) ("Hit:\n\n  1d6".toList.splitOn '\n') ∧
    "Hit:\n\n  1d6" = normalize "  Hit:\r\n\n    1d6\n" ∧
    IsIndent "\t ".toList ∧
    isBlankText " \u2003\r\n".toList = true ∧ WholeLines " \u2003\r\n".toList ∧
    isBlankText "\n \t".toList = true ∧ WholeLines "  Hit:\r\n\n    1d6\n".toList ∧
    " \u2003\r\n" ++ indent "\t " "  Hit:\r\n\n    1d6\n" ++ "\n \t" =
      " \u2003\r\n\t   Hit:\r\n\n\t     1d6\n\n \t" ∧
    normalize " \u2003\r\n\t   Hit:\r\n\n\t     1d6\n\n \t" = "Hit:\n\n  1d6" := by
  have hsome : ∃ l ∈ lines "  Hit:\r\n\n    1d6\n".toList, isBlankText l = false := by decide +kernel
  have hindent : IsIndent "\t ".toList := by simp [IsIndent]
  have hbefore : WholeLines " \u2003\r\n".toList := by simp [WholeLines]
  have hraw : WholeLines "  Hit:\r\n\n    1d6\n".toList := by simp [WholeLines]
  have hblank : isBlankText " \u2003\r\n".toList = true := by decide +kernel
  have hafter : isBlankText "\n \t".toList = true := by decide +kernel
  have htext : " \u2003\r\n" ++ indent "\t " "  Hit:\r\n\n    1d6\n" ++ "\n \t" =
      " \u2003\r\n\t   Hit:\r\n\n\t     1d6\n\n \t" := by decide +kernel
  have hnormal : normalize "  Hit:\r\n\n    1d6\n" = "Hit:\n\n  1d6" := by decide +kernel
  have hcommon : commonIndentation (lines "  Hit:\r\n\n    1d6\n".toList) = 2 := by decide +kernel
  obtain ⟨hflush, hleft⟩ := normalize_unindents.2.1 _ hsome
  rw [hnormal] at hflush
  rw [hnormal, hcommon] at hleft
  refine ⟨hsome, hflush, hleft, normalize_unindents.2.2.1 _ _ 2 hflush hleft, hindent, hblank, hbefore,
    hafter, hraw, htext, ?_⟩
  rw [← htext, normalize_unindents.2.2.2 _ _ _ _ hindent hblank hbefore hafter (.inr hraw), hnormal]

end Rulebook.Template
