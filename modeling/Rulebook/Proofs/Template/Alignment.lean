import Rulebook.Proofs.Template.Indentation

/-!
# Shared indentation

The normal form takes the same number of characters from every line of a block. That is the indentation
that the lines share where all of them are indented with the same characters. Where some start with tabs
and others with spaces, it takes different texts from them, and the lines move against one another.

* `LongestShared`: the longest text of spaces and tabs that all lines start with.
* `prefix_length_le`: no such text is longer than the indentation of a line.
* `forall₂_normalize`: a line of a text beside that of its normal form.
* `StripsShared`: a text whose normal form is without the longest shared indentation, and keeps all else.
  `stripsShared_iff`: **so it is exactly if all lines start with the same characters, as far as the common
  indentation goes.**
* `normalize_cuts`: what the normal form takes from the lines of any text.
-/

namespace Rulebook.Template

/-! ## Indentation of lines -/

theorem mem_trimLines_of_solid {ls : List (List Char)} {l : List Char} (hl : l ∈ ls)
    (hsolid : isBlankText l = false) : l ∈ trimLines ls := by
  obtain ⟨before, after, heq, hbefore, hafter⟩ := exists_eq_append_trimLines ls
  rw [heq, List.mem_append, List.mem_append] at hl
  rcases hl with (hl | hl) | hl
  · rw [hbefore l hl] at hsolid
    cases hsolid
  · exact hl
  · rw [hafter l hl] at hsolid
    cases hsolid

/-- No more of a line is indentation than it counts. -/
theorem prefix_length_le {q l : List Char} (hq : IsIndent q) (h : q <+: l) :
    q.length ≤ indentation l := by
  obtain ⟨rest, rfl⟩ := h
  rw [indentation_append hq]
  exact Nat.le_add_right _ _

/-- **The indentation that lines share**: the longest text of spaces and tabs that each of them starts
with, blank ones apart. -/
structure LongestShared (ls : List (List Char)) (p : List Char) : Prop where
  indent : IsIndent p
  shared : ∀ l ∈ ls, isBlankText l = false → p <+: l
  longest : ∀ q, IsIndent q → (∀ l ∈ ls, isBlankText l = false → q <+: l) → q.length ≤ p.length

/-! ## Lines of a text and of its normal form -/

/-- The lines of a normal form are those of the block, cut by its common indentation. -/
theorem forall₂_normalize {raw : String} (h : ∃ l ∈ lines raw.toList, isBlankText l = false)
    {R : List Char → List Char → Prop} :
    List.Forall₂ R (trimLines (lines raw.toList)) ((normalize raw).toList.splitOn '\n') ↔
      ∀ l ∈ trimLines (lines raw.toList), R l (cutLine (commonIndentation (lines raw.toList)) l) := by
  rw [normalize, String.toList_ofList, splitOn_normalizeChars h, normalizeLines_eq,
    commonIndentation_trimLines, List.forall₂_map_right_iff, List.forall₂_same]

/-- **The normal form strips what the lines share.** Every line of the block is the longest shared
indentation followed by the line of the normal form that stands in its place, unless it is blank. -/
def StripsShared (raw : String) : Prop :=
  ∃ p, LongestShared (lines raw.toList) p ∧
    List.Forall₂ (fun l r => isBlankText l = false → l = p ++ r) (trimLines (lines raw.toList))
      ((normalize raw).toList.splitOn '\n')

/-- **It does so exactly if the lines start with the same characters**, as far as their common indentation
goes. -/
theorem stripsShared_iff {raw : String} (h : ∃ l ∈ lines raw.toList, isBlankText l = false) :
    StripsShared raw ↔ ∃ p, ∀ l ∈ lines raw.toList, isBlankText l = false →
      l.take (commonIndentation (lines raw.toList)) = p := by
  set n := commonIndentation (lines raw.toList) with hn
  constructor
  · rintro ⟨p, -, hstrips⟩
    refine ⟨p, fun l hl hsolid => ?_⟩
    have hline := (forall₂_normalize h).1 hstrips l (mem_trimLines_of_solid hl hsolid) hsolid
    exact List.append_cancel_right ((take_append_cutLine hsolid).trans hline)
  · rintro ⟨p, hp⟩
    obtain ⟨least, hleast, hleastSolid, hattained⟩ := commonIndentation_attained h
    have htaken : least.take n = p := hp least hleast hleastSolid
    have hlength : p.length = n := by
      rw [← htaken, length_take_indentation (Nat.le_of_eq hattained.symm)]
    refine ⟨p, ⟨?_, fun l hl hsolid => ?_, fun q hq hshared => ?_⟩, ?_⟩
    · exact htaken ▸ take_isIndent (Nat.le_of_eq hattained.symm)
    · exact hp l hl hsolid ▸ List.take_prefix n l
    · -- the line with the least indentation has no room for a longer one
      rw [hlength, hn, ← hattained]
      exact prefix_length_le hq (hshared least hleast hleastSolid)
    · refine (forall₂_normalize h).2 fun l hl hsolid => ?_
      rw [← hp l (mem_of_mem_trimLines hl) hsolid, take_append_cutLine hsolid]

/-- **What the normal form takes from a text** that is not blank. Every line of the block loses as much of
its own indentation as the line with the least one has, unless it is blank. These are the same characters
in every line exactly if the normal form strips what the lines share, and they are so in a text that is
indented with one character only. -/
theorem normalize_cuts {raw : String} (h : ∃ l ∈ lines raw.toList, isBlankText l = false) :
    (List.Forall₂ (fun l r => isBlankText l = false → ∃ p, IsIndent p ∧
        p.length = commonIndentation (lines raw.toList) ∧ l = p ++ r)
      (trimLines (lines raw.toList)) ((normalize raw).toList.splitOn '\n')) ∧
    (StripsShared raw ↔ ∃ p, ∀ l ∈ lines raw.toList, isBlankText l = false →
      l.take (commonIndentation (lines raw.toList)) = p) ∧
    ∀ c, (∀ l ∈ lines raw.toList, isBlankText l = false → ∀ d ∈ l.take (indentation l), d = c) →
      StripsShared raw := by
  refine ⟨(forall₂_normalize h).2 fun l hl => ?_, stripsShared_iff h, fun c hc => ?_⟩
  · exact (leaves_cutLine (commonIndentation_le (mem_of_mem_trimLines hl))).solid
  · refine (stripsShared_iff h).2 ⟨List.replicate (commonIndentation (lines raw.toList)) c, ?_⟩
    intro l hl hsolid
    have hle := commonIndentation_le hl hsolid
    refine List.eq_replicate_iff.2 ⟨length_take_indentation hle, fun d hd => hc l hl hsolid d ?_⟩
    exact (List.take_prefix_take_left hle).subset hd

/-- A block in spaces with a blank line in it keeps the rest of its indentation. -/
theorem normalize_cuts_spaces :
    (∃ l ∈ lines "  a\n \n    b\n".toList, isBlankText l = false) ∧
    (∀ l ∈ lines "  a\n \n    b\n".toList, isBlankText l = false → ∀ d ∈ l.take (indentation l), d = ' ') ∧
    normalize "  a\n \n    b\n" = "a\n\n  b" ∧ StripsShared "  a\n \n    b\n" := by
  have hsome : ∃ l ∈ lines "  a\n \n    b\n".toList, isBlankText l = false := by decide +kernel
  have hlines : lines "  a\n \n    b\n".toList = ["  a".toList, " ".toList, "    b".toList] := by
    decide +kernel
  have hspaces : ∀ l ∈ lines "  a\n \n    b\n".toList, isBlankText l = false →
      ∀ d ∈ l.take (indentation l), d = ' ' := by
    rw [hlines]
    simp [isBlankText, isBlank, indentation]
  exact ⟨hsome, hspaces, by decide +kernel, (normalize_cuts hsome).2.2 ' ' hspaces⟩

/-- A line behind a tab and one behind two spaces share no indentation, and still lose the tab and one of
the spaces: the first one moves to the left of the second. -/
theorem normalize_misaligns :
    (∃ l ∈ lines "\ta\n  b".toList, isBlankText l = false) ∧
    normalize "\ta\n  b" = "a\n b" ∧ ¬ StripsShared "\ta\n  b" := by
  have hsome : ∃ l ∈ lines "\ta\n  b".toList, isBlankText l = false := by decide +kernel
  refine ⟨hsome, by decide +kernel, fun hstrips => ?_⟩
  obtain ⟨p, hp⟩ := (stripsShared_iff hsome).1 hstrips
  have htab := hp "\ta".toList (by decide +kernel) (by decide +kernel)
  have hspace := hp "  b".toList (by decide +kernel) (by decide +kernel)
  exact absurd (htab.trans hspace.symm) (by decide +kernel)

end Rulebook.Template
