import Rulebook.Proofs.Text.Trim

/-!
# Words

* `FirstWord`: a text with its first word marked. `firstWord?_eq_some_iff`: **there is one way to mark
  it**, and it is found.
* `Bare`: a text that neither starts nor ends with a blank. `trim_bare`, `trim_append`: **trimming gives
  the bare text between blanks.**
-/

namespace Rulebook

/-! ## The first word -/

theorem isBlankText_iff {text : List Char} :
    isBlankText text = true ↔ ∀ c ∈ text, isBlank c = true := List.all_eq_true

/-- **The first word of a text**: blanks before it, a word without blanks, and a rest that does not go
on with the word. -/
structure FirstWord (text before word after : List Char) : Prop where
  text_eq : text = before ++ (word ++ after)
  blank : ∀ c ∈ before, isBlank c = true
  nonempty : word ≠ []
  solid : ∀ c ∈ word, isBlank c = false
  ended : ∀ c ∈ after.head?, isBlank c = true

theorem firstWord?_eq_some_iff {text before word after : List Char} :
    firstWord? text = some (before, word, after) ↔ FirstWord text before word after := by
  constructor
  · intro h
    have htext := append_of_firstWord? h
    unfold firstWord? at h
    split at h
    · cases h
    · next rest hrest =>
      simp only [Option.some.injEq, Prod.mk.injEq] at h
      obtain ⟨rfl, rfl, rfl⟩ := h
      obtain ⟨c, cs, hcs⟩ : ∃ c cs, text.dropWhile isBlank = c :: cs := List.exists_cons_of_ne_nil hrest
      have hc : isBlank c = false := by
        have hnot := List.head?_dropWhile_not isBlank text
        rw [hcs] at hnot
        simpa using hnot
      refine ⟨htext.symm, fun d hd => List.mem_takeWhile_imp hd, ?_, fun d hd => ?_, ?_⟩
      · rw [hcs, List.takeWhile_cons_of_pos (by simp [hc])]
        exact List.cons_ne_nil _ _
      · simpa using List.mem_takeWhile_imp hd
      · intro d hd
        have hnot := List.head?_dropWhile_not (!isBlank ·) (text.dropWhile isBlank)
        rw [hd] at hnot
        simpa using hnot
  · rintro ⟨rfl, hblank, hnonempty, hsolid, hended⟩
    obtain ⟨c, cs, rfl⟩ := List.exists_cons_of_ne_nil hnonempty
    have hc : isBlank c = false := hsolid c List.mem_cons_self
    have hsolid' : ∀ d ∈ c :: cs, (!isBlank d) = true := fun d hd => by rw [hsolid d hd]; rfl
    have hdrop : (before ++ (c :: cs ++ after)).dropWhile isBlank = c :: cs ++ after := by
      rw [List.dropWhile_append_of_pos hblank, List.cons_append,
        List.dropWhile_cons_of_neg (by simp [hc])]
    have htake : (before ++ (c :: cs ++ after)).takeWhile isBlank = before := by
      rw [List.takeWhile_append_of_pos hblank, List.cons_append,
        List.takeWhile_cons_of_neg (by simp [hc]), List.append_nil]
    have hafter : after.takeWhile (!isBlank ·) = [] ∧ after.dropWhile (!isBlank ·) = after := by
      cases after with
      | nil => exact ⟨rfl, rfl⟩
      | cons d ds =>
        have hd : isBlank d = true := hended d rfl
        exact ⟨List.takeWhile_cons_of_neg (by simp [hd]), List.dropWhile_cons_of_neg (by simp [hd])⟩
    unfold firstWord?
    rw [hdrop, htake]
    show some (before, (c :: cs ++ after).takeWhile _, (c :: cs ++ after).dropWhile _) = _
    rw [List.takeWhile_append_of_pos hsolid', List.dropWhile_append_of_pos hsolid', hafter.1,
      hafter.2, List.append_nil]

/-- Between a word and the next one stand blanks. -/
theorem FirstWord.gap {text before word y next more : List Char}
    (h : FirstWord text before word (y ++ (next ++ more))) (hne : next ≠ [])
    (hsolid : ∀ d ∈ next, isBlank d = false) : y ≠ [] := by
  rintro rfl
  obtain ⟨d, ds, rfl⟩ := List.exists_cons_of_ne_nil hne
  have hblank : isBlank d = true := h.ended d rfl
  rw [hsolid d List.mem_cons_self] at hblank
  cases hblank

/-- A word in front of blanks is a first word. -/
theorem firstWord_of_blanks {before word y : List Char} (hbefore : isBlankText before = true)
    (hword : word ≠ []) (hsolid : ∀ d ∈ word, isBlank d = false) (hy : isBlankText y = true)
    (hy' : y ≠ []) (after : List Char) :
    FirstWord (before ++ (word ++ (y ++ after))) before word (y ++ after) := by
  refine ⟨rfl, isBlankText_iff.1 hbefore, hword, hsolid, fun d hd => ?_⟩
  rw [List.head?_append_of_ne_nil _ hy'] at hd
  exact isBlankText_iff.1 hy d (List.mem_of_mem_head? hd)

/-! ## Bare texts -/

/-- A text that neither starts nor ends with a blank. -/
structure Bare (text : List Char) : Prop where
  starts : ∀ c ∈ text.head?, isBlank c = false
  ends : ∀ c ∈ text.getLast?, isBlank c = false

/-- A text between two bare ones is part of a bare one. -/
theorem Bare.around {first last : List Char} (hfirst : Bare first) (hne : first ≠ [])
    (hlast : Bare last) (hne' : last ≠ []) (between : List Char) :
    Bare (first ++ between ++ last) := by
  constructor
  · rw [List.append_assoc, List.head?_append_of_ne_nil _ hne]
    exact hfirst.starts
  · rw [List.getLast?_append_of_ne_nil _ hne']
    exact hlast.ends

/-- A trimmed text is bare. -/
theorem trim_bare (text : List Char) : Bare (trim text) := by
  constructor
  · intro c hc
    have hstart : trimStart (trim text) = trim text :=
      trimStart_eq_self_of_start (List.rdropWhile_prefix isBlank (trimStart text))
    have hnot := List.head?_dropWhile_not isBlank (trim text)
    rw [show (trim text).dropWhile isBlank = trim text from hstart, hc] at hnot
    simpa using hnot
  · intro c hc
    obtain ⟨before, hbefore⟩ := List.getLast?_eq_some_iff.1 hc
    exact isBlank_last hbefore

/-- **Trimming gives the bare text between blanks.** -/
theorem trim_append {before text after : List Char} (hbefore : ∀ c ∈ before, isBlank c = true)
    (htext : Bare text) (hafter : ∀ c ∈ after, isBlank c = true) :
    trim (before ++ text ++ after) = text := by
  rw [trim, List.append_assoc, trimStart_append hbefore]
  rcases List.eq_nil_or_concat' text with rfl | ⟨init, c, rfl⟩
  · have hnil : trimStart after = [] := List.dropWhile_eq_nil_iff.2 hafter
    rw [List.nil_append, hnil]
    rfl
  · have hc : isBlank c = false := htext.ends c (by simp)
    have hbare : trimStart (init ++ [c] ++ after) = init ++ c :: after := by
      rw [List.append_assoc, List.singleton_append]
      cases init with
      | nil => exact List.dropWhile_cons_of_neg (by simp [hc])
      | cons d ds =>
        have hd : isBlank d = false := htext.starts d rfl
        exact List.dropWhile_cons_of_neg (by simp [hd])
    rw [hbare, trimEnd_of_last hc hafter]

theorem trim_of_bare {text : List Char} (h : Bare text) : trim text = text := by
  have htrim := trim_append (List.forall_mem_nil _) h (List.forall_mem_nil _)
  simpa using htrim

end Rulebook
