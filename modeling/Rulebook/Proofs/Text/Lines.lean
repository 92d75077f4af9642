import Mathlib.Data.List.Basic
import Rulebook.Text.Lines

/-!
# Lines and line feeds

* `lines_of_line`, `lines_feed`: the lines of a text, one line feed after the other. `bareLine` is a
  line without the carriage return that belongs to its line feed.
* `WholeLines`: a text whose last line is ended. `lines_append`: **whole lines in front of a text are
  lines of their own.**
* `mem_of_mem_lines`, `feed_of_mem_lines`: what stands in a line.
* `splitOn_joinLines`: lines that were joined are found again between the line feeds.
* `bareLine_cases`, `lines_joinLines`: the carriage returns that joined lines lose when they are lines
  again. `returned_joinLines_iff`, `returned_of_mem_lines`: **where a carriage return stands before a line
  feed**, and where two of them do.
-/

namespace Rulebook

/-! ## The lines of a text -/

/-- A line without the carriage return that it ends with. -/
def bareLine : List Char → List Char
  | [] => []
  | ['\r'] => []
  | c :: cs => c :: bareLine cs

theorem bareLine_cons (c : Char) {cs : List Char} (h : cs ≠ []) :
    bareLine (c :: cs) = c :: bareLine cs := by
  obtain ⟨d, ds, rfl⟩ := List.exists_cons_of_ne_nil h
  rw [bareLine]
  simp

/-- A line loses one carriage return at most. -/
theorem bareLine_cases (l : List Char) :
    (bareLine l = l ∧ '\r' ∉ l.getLast?) ∨ l = bareLine l ++ ['\r'] := by
  fun_induction bareLine l with
  | case1 => exact .inl ⟨rfl, by simp⟩
  | case2 => exact .inr rfl
  | case3 c cs hc ih =>
    rcases ih with ⟨heq, hlast⟩ | heq
    · refine .inl ⟨by rw [heq], ?_⟩
      rcases eq_or_ne cs [] with rfl | hne
      · rintro ⟨⟩
        exact hc rfl rfl
      · rwa [List.getLast?_cons_of_ne_nil hne]
    · exact .inr (by rw [List.cons_append, ← heq])

theorem bareLine_eq_self_iff {l : List Char} : bareLine l = l ↔ '\r' ∉ l.getLast? := by
  rcases bareLine_cases l with ⟨heq, hlast⟩ | heq
  · exact iff_of_true heq hlast
  · refine iff_of_false (fun hself => ?_) (fun hlast => hlast (by rw [heq]; simp))
    rw [hself] at heq
    exact absurd (congrArg List.length heq) (by simp)

/-- A character that neither ends a line nor stands before a line feed with one. -/
theorem lines_cons {c : Char} {cs : List Char} (hc : c ≠ '\n')
    (hcs : c = '\r' → '\n' ∉ cs.head?) : lines (c :: cs) = extendFirst c (lines cs) := by
  rw [lines]
  · exact hc
  · rintro rest rfl rfl
    exact hcs rfl rfl

theorem lines_ne_nil {text : List Char} (h : text ≠ []) : lines text ≠ [] := by
  fun_cases lines text with
  | case1 => exact absurd rfl h
  | case2 cs => exact List.cons_ne_nil _ _
  | case3 cs => exact List.cons_ne_nil _ _
  | case4 c cs => cases lines cs <;> exact List.cons_ne_nil _ _

theorem extendFirst_append (c : Char) {ls : List (List Char)} (h : ls ≠ [])
    (more : List (List Char)) : extendFirst c (ls ++ more) = extendFirst c ls ++ more := by
  obtain ⟨l, ls, rfl⟩ := List.exists_cons_of_ne_nil h
  rfl

/-- A text without line feeds is one line. -/
theorem lines_of_line {text : List Char} (hne : text ≠ []) (h : '\n' ∉ text) :
    lines text = [text] := by
  induction text with
  | nil => exact absurd rfl hne
  | cons c cs ih =>
    rw [List.mem_cons, not_or] at h
    rw [lines_cons (Ne.symm h.1) fun _ hmem => h.2 (List.mem_of_mem_head? hmem)]
    rcases eq_or_ne cs [] with rfl | hcs
    · rfl
    · rw [ih hcs h.2]
      rfl

/-- **The first line of a text** ends at its first line feed. -/
theorem lines_feed {l : List Char} (h : '\n' ∉ l) (rest : List Char) :
    lines (l ++ '\n' :: rest) = bareLine l :: lines rest := by
  induction l with
  | nil => rfl
  | cons c cs ih =>
    rw [List.mem_cons, not_or] at h
    rcases eq_or_ne cs [] with rfl | hcs
    · by_cases hc : c = '\r'
      · subst hc
        rfl
      · rw [List.cons_append, lines_cons (Ne.symm h.1) fun hr => absurd hr hc, List.nil_append, lines]
        simp [extendFirst, bareLine, hc]
    · have hhead : '\n' ∉ (cs ++ '\n' :: rest).head? := by
        rw [List.head?_append_of_ne_nil _ hcs]
        exact fun hmem => h.2 (List.mem_of_mem_head? hmem)
      rw [List.cons_append, lines_cons (Ne.symm h.1) fun _ => hhead, ih h.2, bareLine_cons c hcs]
      rfl

/-! ## Whole lines -/

/-- A text whose last line is ended by a line feed. An empty text has no last line. -/
def WholeLines (text : List Char) : Prop := ∀ c ∈ text.getLast?, c = '\n'

theorem WholeLines.tail {c : Char} {cs : List Char} (h : WholeLines (c :: cs)) : WholeLines cs := by
  intro d hd
  cases cs with
  | nil => cases hd
  | cons e es => exact h d (by rwa [List.getLast?_cons_cons])

theorem WholeLines.tail_ne_nil {c : Char} {cs : List Char} (h : WholeLines (c :: cs))
    (hc : c ≠ '\n') : cs ≠ [] := by
  rintro rfl
  exact hc (h c rfl)

/-- **Whole lines in front of a text** are lines of their own. -/
theorem lines_append {text : List Char} (h : WholeLines text) (rest : List Char) :
    lines (text ++ rest) = lines text ++ lines rest := by
  fun_induction lines text with
  | case1 => rfl
  | case2 cs ih => exact congrArg ([] :: ·) (ih h.tail)
  | case3 cs ih => exact congrArg ([] :: ·) (ih h.tail.tail)
  | case4 c cs hc hfeed ih =>
    have hcs : cs ≠ [] := h.tail_ne_nil hc
    have hhead : c = '\r' → '\n' ∉ (cs ++ rest).head? := by
      rw [List.head?_append_of_ne_nil _ hcs]
      rintro rfl hmem
      obtain ⟨ds, rfl⟩ := List.head?_eq_some_iff.1 hmem
      exact hfeed ds rfl rfl
    rw [List.cons_append, lines_cons hc hhead, ih h.tail, extendFirst_append c (lines_ne_nil hcs)]

/-! ## What stands in a line -/

theorem mem_of_mem_extendFirst {c d : Char} {ls : List (List Char)} {l : List Char}
    (hl : l ∈ extendFirst c ls) (hd : d ∈ l) : d = c ∨ ∃ l' ∈ ls, d ∈ l' := by
  cases ls with
  | nil =>
    rw [List.mem_singleton.1 hl, List.mem_singleton] at hd
    exact .inl hd
  | cons l' ls =>
    rcases List.mem_cons.1 hl with rfl | hl
    · rcases List.mem_cons.1 hd with rfl | hd
      · exact .inl rfl
      · exact .inr ⟨l', List.mem_cons_self, hd⟩
    · exact .inr ⟨l, List.mem_cons_of_mem _ hl, hd⟩

/-- What stands in a line stands in the text, and is no line feed. -/
theorem mem_of_mem_lines {text l : List Char} {d : Char} (hl : l ∈ lines text) (hd : d ∈ l) :
    d ∈ text ∧ d ≠ '\n' := by
  fun_induction lines text generalizing l with
  | case1 => cases hl
  | case2 cs ih =>
    rcases List.mem_cons.1 hl with rfl | hl
    · cases hd
    · exact ⟨List.mem_cons_of_mem _ (ih hl hd).1, (ih hl hd).2⟩
  | case3 cs ih =>
    rcases List.mem_cons.1 hl with rfl | hl
    · cases hd
    · exact ⟨List.mem_cons_of_mem _ (List.mem_cons_of_mem _ (ih hl hd).1), (ih hl hd).2⟩
  | case4 c cs hc hfeed ih =>
    rcases mem_of_mem_extendFirst hl hd with rfl | ⟨l', hl', hd⟩
    · exact ⟨List.mem_cons_self, hc⟩
    · exact ⟨List.mem_cons_of_mem _ (ih hl' hd).1, (ih hl' hd).2⟩

/-! ## Joined lines -/

theorem joinLines_cons (l : List Char) {ls : List (List Char)} (h : ls ≠ []) :
    joinLines (l :: ls) = l ++ '\n' :: joinLines ls := by
  obtain ⟨l', ls, rfl⟩ := List.exists_cons_of_ne_nil h
  rfl

theorem joinLines_eq_intercalate (ls : List (List Char)) : joinLines ls = ['\n'].intercalate ls := by
  induction ls with
  | nil => rfl
  | cons l ls ih =>
    rcases eq_or_ne ls [] with rfl | hls
    · simp [joinLines]
    · rw [joinLines_cons l hls, ih]
      obtain ⟨l', ls, rfl⟩ := List.exists_cons_of_ne_nil hls
      simp [List.intercalate]

/-- **Joined lines are found again** between the line feeds. -/
theorem splitOn_joinLines {ls : List (List Char)} (hne : ls ≠ []) (h : ∀ l ∈ ls, '\n' ∉ l) :
    (joinLines ls).splitOn '\n' = ls := by
  rw [joinLines_eq_intercalate, List.splitOn_intercalate '\n' h hne]

theorem joinLines_splitOn (text : List Char) : joinLines (text.splitOn '\n') = text := by
  rw [joinLines_eq_intercalate, List.intercalate_splitOn]

/-- No piece between line feeds has one in it. -/
theorem feed_not_mem_splitOn {text l : List Char} (h : l ∈ text.splitOn '\n') : '\n' ∉ l := by
  induction text generalizing l with
  | nil =>
    rw [List.splitOn_nil, List.mem_singleton] at h
    simp [h]
  | cons c cs ih =>
    rw [List.splitOn_cons_eq_if_modifyHead] at h
    split at h
    · rcases List.mem_cons.1 h with rfl | h
      · exact List.not_mem_nil
      · exact ih h
    · rename_i hc
      obtain ⟨l', ls, hls⟩ := List.exists_cons_of_ne_nil (List.splitOn_ne_nil '\n' cs)
      rw [hls, List.modifyHead_cons] at h
      rcases List.mem_cons.1 h with rfl | h
      · have hl' : '\n' ∉ l' := ih (by simp [hls])
        rw [List.mem_cons, not_or]
        exact ⟨fun heq => hc (beq_iff_eq.2 heq.symm), hl'⟩
      · exact ih (by simp [hls, h])

/-! ## Carriage returns -/

/-- **The lines of joined lines** are these lines, but for a carriage return at the end of all of them
except the last one. -/
theorem lines_joinLines {ls : List (List Char)} {last : List Char} (h : ∀ l ∈ ls, '\n' ∉ l) :
    lines (joinLines (ls ++ [last])) = ls.map bareLine ++ lines last := by
  induction ls with
  | nil => rfl
  | cons l ls ih =>
    obtain ⟨hl, hls⟩ := List.forall_mem_cons.1 h
    rw [List.cons_append, joinLines_cons l (by simp), lines_feed hl, ih hls]
    rfl

/-- Where a carriage return stands before a line feed: at the end of a line or behind it. -/
theorem returned_feed_iff {l : List Char} (h : '\n' ∉ l) (rest : List Char) :
    ['\r', '\n'] <:+: l ++ '\n' :: rest ↔ '\r' ∈ l.getLast? ∨ ['\r', '\n'] <:+: rest := by
  induction l with
  | nil => simp [List.infix_cons_iff]
  | cons c cs ih =>
    rw [List.mem_cons, not_or] at h
    rw [List.cons_append, List.infix_cons_iff, ih h.2, List.cons_prefix_cons]
    cases cs with
    | nil => simp [eq_comm]
    | cons d ds =>
      have hd : '\n' ≠ d := fun heq => h.2 (heq ▸ List.mem_cons_self)
      rw [List.getLast?_cons_cons, List.cons_append, List.cons_prefix_cons]
      simp [hd]

/-- **Joined lines have a carriage return before a line feed** exactly if one of them ends with one that
is not the last. -/
theorem returned_joinLines_iff {ls : List (List Char)} {last : List Char} (h : ∀ l ∈ ls, '\n' ∉ l)
    (hlast : '\n' ∉ last) :
    ['\r', '\n'] <:+: joinLines (ls ++ [last]) ↔ ∃ l ∈ ls, '\r' ∈ l.getLast? := by
  induction ls with
  | nil => exact iff_of_false (fun hinside => hlast (hinside.subset (by simp))) (by simp)
  | cons l ls ih =>
    obtain ⟨hl, hls⟩ := List.forall_mem_cons.1 h
    rw [List.cons_append, joinLines_cons l (by simp), returned_feed_iff hl, ih hls, List.exists_mem_cons_iff]

/-- A line of joined lines that is not the last stands in front of a line feed. -/
theorem feed_infix_joinLines {ls : List (List Char)} {l : List Char} (h : l ∈ ls)
    (last : List Char) : l ++ ['\n'] <:+: joinLines (ls ++ [last]) := by
  induction ls with
  | nil => cases h
  | cons k ls ih =>
    rw [List.cons_append, joinLines_cons k (by simp)]
    rcases List.mem_cons.1 h with rfl | h
    · exact ⟨[], joinLines (ls ++ [last]), by simp⟩
    · exact (ih h).trans ⟨k ++ ['\n'], [], by simp⟩

/-- A line that ends with a carriage return is followed by another one, if it is not the last line. -/
theorem returned_of_mem_lines {text l : List Char} (hl : l ∈ (lines text).dropLast)
    (hreturn : '\r' ∈ l.getLast?) : ['\r', '\r', '\n'] <:+: text := by
  obtain ⟨ls, last, hpieces⟩ : ∃ ls last, text.splitOn '\n' = ls ++ [last] :=
    (List.eq_nil_or_concat' _).resolve_left (List.splitOn_ne_nil '\n' text)
  have hfeed : ∀ k ∈ ls ++ [last], '\n' ∉ k := fun k hk => feed_not_mem_splitOn (hpieces ▸ hk)
  have htext : joinLines (ls ++ [last]) = text := by rw [← hpieces, joinLines_splitOn]
  obtain ⟨hls, hlast⟩ := List.forall_mem_append.1 hfeed
  -- the last piece is no line or the last one, so the others are pieces in front of a line feed
  have hmem : l ∈ ls.map bareLine := by
    rw [← htext, lines_joinLines hls] at hl
    rcases eq_or_ne last [] with rfl | hne
    · rw [lines, List.append_nil] at hl
      exact List.dropLast_subset _ hl
    · rwa [lines_of_line hne (hlast last List.mem_cons_self), List.dropLast_concat] at hl
  obtain ⟨k, hk, rfl⟩ := List.mem_map.1 hmem
  rcases bareLine_cases k with ⟨heq, hnone⟩ | heq
  · rw [heq] at hreturn
    exact absurd hreturn hnone
  · obtain ⟨m, hm⟩ := List.getLast?_eq_some_iff.1 hreturn
    have hinside := feed_infix_joinLines hk last
    rw [htext, heq, hm] at hinside
    exact List.IsInfix.trans ⟨m, [], by simp⟩ hinside

end Rulebook
