import Rulebook.Proofs.Template.Indentation
import Rulebook.Proofs.Template.Tiling

/-!
# The normal form of a normal form

A template keeps its text in normal form, and that text may be stored and read again. Line ends decide
whether it is the same template then: a line feed takes one carriage return in front of it along, so of
two carriage returns in front of a line feed one stays in the normal form, and is taken the next time.

* `Flush.normalizeLines_eq`: **flush lines are their own normal form.**
* `normalizeChars_cases`, `lines_normalizeChars`: the lines of a normal form, which lose the carriage
  returns that they end with.
* `normalizeChars_fixed_iff`: **a normal form is its own one** exactly if it has no carriage return in
  front of a line feed. `returned_of_normalizeChars`: which texts have a normal form with one.
* `parse_text_iff`: a template is read from its text again exactly if that is its own normal form.
* `normalize_fixed`: all of this for texts and templates.
-/

namespace Rulebook.Template

/-! ## Flush lines -/

/-- **Flush lines are in normal form.** -/
theorem Flush.normalizeLines_eq {ls : List (List Char)} (h : Flush ls) : normalizeLines ls = ls := by
  obtain ⟨l, hl, hsolid, hhead⟩ := h.touches
  have hcommon : commonIndentation ls = 0 := by
    have hle := commonIndentation_le hl hsolid
    rw [indentation_eq_zero_iff.2 hhead] at hle
    exact Nat.le_zero.1 hle
  rw [Template.normalizeLines_eq, trimLines_of_ends h.starts h.ends, hcommon]
  refine (List.map_congr_left fun k hk => ?_).trans (List.map_id ls)
  unfold cutLine
  split
  · rename_i hblank
    exact (h.clean k hk hblank).symm
  · rfl

theorem head?_bareLine {l : List Char} (h : isBlankText l = false) : (bareLine l).head? = l.head? := by
  cases l with
  | nil => rfl
  | cons c cs =>
    rcases eq_or_ne cs [] with rfl | hne
    · have hc : c ≠ '\r' := by
        rintro rfl
        cases h
      simp [bareLine, hc]
    · rw [bareLine_cons c hne]
      rfl

/-- Flush lines stay flush without the carriage returns that they end with. -/
theorem Flush.bare {ls : List (List Char)} {last : List Char} (h : Flush (ls ++ [last])) :
    Flush (ls.map bareLine ++ [last]) where
  starts := by
    obtain ⟨first, hfirst, hsolid⟩ := h.starts
    cases ls with
    | nil => exact ⟨first, hfirst, hsolid⟩
    | cons l ls =>
      cases hfirst
      exact ⟨bareLine first, rfl, by rw [isBlankText_bareLine, hsolid]⟩
  ends := by
    obtain ⟨l, hl, hsolid⟩ := h.ends
    rw [List.getLast?_concat] at hl ⊢
    exact ⟨l, hl, hsolid⟩
  clean := by
    refine List.forall_mem_append.2 ⟨?_, fun l hl => h.clean l (List.mem_append_right _ hl)⟩
    intro l hl hblank
    obtain ⟨k, hk, rfl⟩ := List.mem_map.1 hl
    rw [isBlankText_bareLine] at hblank
    rw [h.clean k (List.mem_append_left _ hk) hblank]
    rfl
  touches := by
    obtain ⟨l, hl, hsolid, hhead⟩ := h.touches
    rcases List.mem_append.1 hl with hl | hl
    · refine ⟨bareLine l, List.mem_append_left _ (List.mem_map_of_mem hl), ?_, ?_⟩
      · rw [isBlankText_bareLine, hsolid]
      · rwa [head?_bareLine hsolid]
    · exact ⟨l, List.mem_append_right _ hl, hsolid, hhead⟩

/-! ## The normal form of a normal form -/

/-- A normal form is empty, or its lines are flush, the last of them not empty. -/
theorem normalizeChars_cases (text : List Char) :
    normalizeChars text = [] ∨
    ∃ ls last, normalizeLines (lines text) = ls ++ [last] ∧ Flush (ls ++ [last]) ∧ last ≠ [] ∧
      (∀ l ∈ ls, '\n' ∉ l) ∧ '\n' ∉ last := by
  by_cases hall : ∀ l ∈ lines text, isBlankText l = true
  · exact .inl (normalizeChars_eq_nil_iff.2 hall)
  push Not at hall
  obtain ⟨l, hl, hsolid⟩ := hall
  have hflush := normalizeLines_flush ⟨l, hl, Bool.eq_false_iff.2 hsolid⟩
  obtain ⟨last, hlast, hlastSolid⟩ := hflush.ends
  obtain ⟨ls, hls⟩ := List.getLast?_eq_some_iff.1 hlast
  have hfeed : ∀ l ∈ ls ++ [last], '\n' ∉ l := fun l hl => feed_not_mem_normalizeLines (hls ▸ hl)
  obtain ⟨hfeeds, hfeedLast⟩ := List.forall_mem_append.1 hfeed
  refine .inr ⟨ls, last, hls, hls ▸ hflush, ?_, hfeeds, hfeedLast last List.mem_cons_self⟩
  rintro rfl
  cases hlastSolid

/-- **The lines of a normal form** are those that it was put together from, but for the carriage returns
at their ends. -/
theorem lines_normalizeChars {text : List Char} {ls : List (List Char)} {last : List Char}
    (hlines : normalizeLines (lines text) = ls ++ [last]) (hne : last ≠ [])
    (hfeeds : ∀ l ∈ ls, '\n' ∉ l) (hfeed : '\n' ∉ last) :
    lines (normalizeChars text) = ls.map bareLine ++ [last] := by
  rw [normalizeChars, hlines, lines_joinLines hfeeds, lines_of_line hne hfeed]

/-- **A normal form is its own one** exactly if no carriage return stands before a line feed in it. -/
theorem normalizeChars_fixed_iff (text : List Char) :
    normalizeChars (normalizeChars text) = normalizeChars text ↔
      ¬ ['\r', '\n'] <:+: normalizeChars text := by
  rcases normalizeChars_cases text with hnil | ⟨ls, last, hlines, hflush, hne, hfeeds, hfeed⟩
  · rw [hnil]
    exact iff_of_true rfl (by simp)
  have hagain := lines_normalizeChars hlines hne hfeeds hfeed
  -- without its carriage returns the normal form stays flush, so that nothing else is cut
  have htwice : normalizeChars (normalizeChars text) = joinLines (ls.map bareLine ++ [last]) := by
    rw [normalizeChars, hagain, hflush.bare.normalizeLines_eq]
  have hnormal : normalizeChars text = joinLines (ls ++ [last]) := by rw [normalizeChars, hlines]
  have hsame : joinLines (ls.map bareLine ++ [last]) = joinLines (ls ++ [last]) ↔
      ls.map bareLine = ls.map id := by
    rw [List.map_id]
    constructor
    · intro h
      have hpieces := congrArg (List.splitOn '\n') h
      rw [splitOn_joinLines (by simp) fun k hk => ?_, splitOn_joinLines (by simp) ?_] at hpieces
      · exact List.append_cancel_right hpieces
      · exact List.forall_mem_append.2 ⟨hfeeds, List.forall_mem_singleton.2 hfeed⟩
      · exact fun hmem => (mem_of_mem_lines (hagain ▸ hk) hmem).2 rfl
    · intro h
      rw [h]
  rw [htwice, hnormal, returned_joinLines_iff hfeeds hfeed, hsame, List.map_inj_left]
  simp [bareLine_eq_self_iff]

/-- What is left of a line ends with the character that the line does. -/
theorem mem_getLast?_of_cutLine {n : Nat} {l : List Char} {c : Char}
    (h : c ∈ (cutLine n l).getLast?) : c ∈ l.getLast? := by
  unfold cutLine at h
  split at h
  · cases h
  · rw [List.getLast?_drop] at h
    split at h
    · cases h
    · exact h

/-- A carriage return before a line feed of a normal form stands before another one in the text. -/
theorem returned_of_normalizeChars {text : List Char} (h : ['\r', '\n'] <:+: normalizeChars text) :
    ['\r', '\r', '\n'] <:+: text := by
  rcases normalizeChars_cases text with hnil | ⟨ls, last, hlines, -, -, hfeeds, hfeed⟩
  · rw [hnil] at h
    simp at h
  rw [normalizeChars, hlines, returned_joinLines_iff hfeeds hfeed] at h
  obtain ⟨k, hk, hreturn⟩ := h
  -- the line has its carriage return already in the text, and is not the last one there
  rw [normalizeLines_eq, List.map_eq_append_iff] at hlines
  obtain ⟨block, rest, hblock, rfl, hrest⟩ := hlines
  obtain ⟨m, hm, rfl⟩ := List.mem_map.1 hk
  have hbefore : m ∈ (lines text).dropLast := by
    obtain ⟨before, after, htext, -, -⟩ := exists_eq_append_trimLines (lines text)
    have hne : rest ++ after ≠ [] := by
      rintro hnil
      rw [(List.append_eq_nil_iff.1 hnil).1] at hrest
      cases hrest
    rw [htext, hblock, List.append_assoc, List.append_assoc, ← List.append_assoc before,
      List.dropLast_append_of_ne_nil hne]
    simp [hm]
  exact returned_of_mem_lines hbefore (mem_getLast?_of_cutLine hreturn)

/-! ## Texts and templates -/

/-- A text in normal form is its own one exactly if no line feed of it stands behind a carriage return. -/
theorem normalize_eq_iff (raw : String) :
    normalize (normalize raw) = normalize raw ↔ ¬ ['\r', '\n'] <:+: (normalize raw).toList := by
  rw [normalize, normalize, String.toList_ofList, String.ofList_inj]
  exact normalizeChars_fixed_iff raw.toList

/-- **A template is read from its own text again** exactly if that is its own normal form. -/
theorem parse_text_iff {raw : String} {t : Template} (h : Template.parse raw = .ok t) :
    Template.parse t.text = .ok t ↔ normalize t.text = t.text := by
  refine ⟨fun hagain => (parse_eq_ok hagain).1.symm, fun hnormal => ?_⟩
  obtain ⟨-, segments, hsegments, hnodes⟩ := parse_eq_ok h
  have hchars : normalizeChars t.text.toList = t.text.toList := by
    rw [← String.toList_ofList (l := normalizeChars t.text.toList), ← normalize, hnormal]
  have hread : nodesOf t.text.toList = .ok t.nodes := by
    rw [nodesOf, hsegments]
    exact hnodes
  rw [Template.parse, hchars]
  simp only [hread, bind, Except.bind, String.ofList_toList]
  rfl

/-- **When a normal form is final.** It is its own normal form exactly if it has no carriage return in
front of a line feed. That is so for every text without two carriage returns in front of a line feed. And
these are the templates that are read from their own text again, with the same nodes at the same
positions. -/
theorem normalize_fixed :
    (∀ raw : String, normalize (normalize raw) = normalize raw ↔
      ¬ ['\r', '\n'] <:+: (normalize raw).toList) ∧
    (∀ raw : String, ¬ ['\r', '\r', '\n'] <:+: raw.toList →
      normalize (normalize raw) = normalize raw) ∧
    ∀ (raw : String) (t : Template), Template.parse raw = .ok t →
      (Template.parse t.text = .ok t ↔ ¬ ['\r', '\n'] <:+: t.text.toList) := by
  refine ⟨normalize_eq_iff, fun raw h => (normalize_eq_iff raw).2 fun hinside => ?_, fun raw t h => ?_⟩
  · rw [normalize, String.toList_ofList] at hinside
    exact h (returned_of_normalizeChars hinside)
  · rw [parse_text_iff h, (parse_eq_ok h).1, normalize_eq_iff]

/-- Both line ends, a carriage return inside of a line and one at the end of the text. -/
theorem normalize_fixed_mixed :
    ¬ ['\r', '\r', '\n'] <:+: "\r\n  a\rb\r\n  %\x7bdice 1d6\x7d\r".toList ∧
    normalize (normalize "\r\n  a\rb\r\n  %\x7bdice 1d6\x7d\r") =
      normalize "\r\n  a\rb\r\n  %\x7bdice 1d6\x7d\r" ∧
    ∃ t, Template.parse "\r\n  a\rb\r\n  %\x7bdice 1d6\x7d\r" = .ok t ∧
      Template.parse t.text = .ok t := by
  have hraw : ¬ ['\r', '\r', '\n'] <:+: "\r\n  a\rb\r\n  %\x7bdice 1d6\x7d\r".toList := by
    decide +kernel
  have hread : (Template.parse "\r\n  a\rb\r\n  %\x7bdice 1d6\x7d\r").toOption.isSome = true := by
    decide +kernel
  obtain ⟨t, ht⟩ := Option.isSome_iff_exists.1 hread
  rw [toOption_eq_some_iff] at ht
  have hsame := normalize_fixed.2.1 _ hraw
  refine ⟨hraw, hsame, t, ht, (normalize_fixed.2.2 _ t ht).2 ?_⟩
  rw [(parse_eq_ok ht).1]
  exact (normalize_fixed.1 _).1 hsame

/-- Of two carriage returns in front of a line feed one stays, and is gone when the text is read again:
the directive behind it moves. -/
theorem normalize_again_moves :
    normalize "a\r\r\n%\x7bdice 1d6\x7d" = "a\r\n%\x7bdice 1d6\x7d" ∧
    normalize "a\r\n%\x7bdice 1d6\x7d" = "a\n%\x7bdice 1d6\x7d" ∧
    ¬ (∀ raw : String, normalize (normalize raw) = normalize raw) ∧
    ¬ ∀ (raw : String) (t : Template), Template.parse raw = .ok t → Template.parse t.text = .ok t := by
  have hnormal : normalize "a\r\r\n%\x7bdice 1d6\x7d" = "a\r\n%\x7bdice 1d6\x7d" := by decide +kernel
  have hagain : normalize "a\r\n%\x7bdice 1d6\x7d" = "a\n%\x7bdice 1d6\x7d" := by decide +kernel
  have hmoved : normalize "a\r\n%\x7bdice 1d6\x7d" ≠ "a\r\n%\x7bdice 1d6\x7d" := by
    rw [hagain]
    decide
  have hread : (Template.parse "a\r\r\n%\x7bdice 1d6\x7d").toOption.isSome = true := by decide +kernel
  obtain ⟨t, ht⟩ := Option.isSome_iff_exists.1 hread
  rw [toOption_eq_some_iff] at ht
  have htext : t.text = "a\r\n%\x7bdice 1d6\x7d" := (parse_eq_ok ht).1.trans hnormal
  refine ⟨hnormal, hagain, ?_, ?_⟩
  · intro h
    exact hmoved (hnormal ▸ h "a\r\r\n%\x7bdice 1d6\x7d")
  · intro h
    exact hmoved (htext ▸ (parse_text_iff ht).1 (h _ t ht))

end Rulebook.Template
