import Rulebook.Proofs.Formula.Blame
import Rulebook.Proofs.Formula.Seams

/-!
# Formulas between blanks

Blanks around a formula do not change what is read, and nothing but spacing can stand there.

* `scanFrom_spacing_append`, `scanFrom_append_spacing`: the tokens of a text with spacing around it.
* `TermTree.respan`, `Tree.respan`: a split with other spans. `Tree.Legal.respan`: it stays legal if
  spans that touch still do.
* `parseChars_trim`: **a formula is read from its text without the blanks around it.**
-/

namespace Rulebook

namespace Token

/-! ## Spacing around a text -/

theorem scanFrom_spacing_append {pos : Nat} {before : List Char}
    (h : ∀ c ∈ before, isSpacing c = true) (text : List Char) :
    scanFrom pos (before ++ text) = scanFrom (pos + byteLength before) text := by
  induction before generalizing pos with
  | nil => rfl
  | cons c before ih =>
    obtain ⟨hc, hbefore⟩ := List.forall_mem_cons.1 h
    rw [List.cons_append, scanFrom_spacing hc, ih hbefore, byteLength_cons, Nat.add_assoc]

theorem scanFrom_append_spacing {pos : Nat} {text after : List Char}
    (h : ∀ c ∈ after, isSpacing c = true) :
    scanFrom pos (text ++ after) = scanFrom pos text := by
  rw [scanFrom_append_of_ends (ends_of_spacing h), scanFrom_eq_nil_iff.2 h, List.append_nil]

end Token

namespace Formula

/-! ## Splits with other spans -/

/-- The tokens of a term with other spans. -/
def TermTree.respan (f : Span → Span) : TermTree → TermTree
  | flat n => flat (n.respan f)
  | symbol s span => symbol s (f span)
  | roll count die sides m =>
    roll (count.map (.respan f)) (f die) (sides.respan f)
      (m.map fun (times, n) => (f times, n.respan f))

/-- A split with other spans. -/
def Tree.respan (f : Span → Span) (t : Tree) : Tree :=
  ⟨t.first.respan f, t.more.map fun (sign, term) => (sign.respan f, term.respan f)⟩

theorem TermTree.tokens_respan (f : Span → Span) (t : TermTree) :
    (t.respan f).tokens = t.tokens.map (.respan f) := by
  cases t with
  | flat n => rfl
  | symbol s span => rfl
  | roll count die sides m => cases count <;> cases m <;> rfl

theorem TermTree.term_respan (f : Span → Span) (t : TermTree) : (t.respan f).term = t.term := by
  cases t with
  | flat n => rfl
  | symbol s span => rfl
  | roll count die sides m => cases count <;> cases m <;> rfl

/-- A term stays legal if spans that touch still do. -/
theorem TermTree.Legal.respan {f : Span → Span}
    (hf : ∀ a b : Span, a.stop = b.start → (f a).stop = (f b).start) {t : TermTree} (h : t.Legal) :
    (t.respan f).Legal := by
  cases h with
  | flat n => exact .flat _
  | symbol s span => exact .symbol _ _
  | roll count_touches count_pos sides_touch sides_pos multiplier_pos =>
    refine .roll ?_ ?_ (hf _ _ sides_touch) sides_pos ?_
    · intro c hc
      obtain ⟨c', hc', rfl⟩ := Option.map_eq_some_iff.1 hc
      exact hf _ _ (count_touches c' hc')
    · intro c hc
      obtain ⟨c', hc', rfl⟩ := Option.map_eq_some_iff.1 hc
      exact count_pos c' hc'
    · intro m hm
      obtain ⟨m', hm', rfl⟩ := Option.map_eq_some_iff.1 hm
      exact multiplier_pos m' hm'

theorem Tree.tokens_respan (f : Span → Span) (t : Tree) :
    (t.respan f).tokens = t.tokens.map (.respan f) := by
  have hmore (more : List (Spanned Sign × TermTree)) :
      Tree.moreTokens (more.map fun (sign, term) => (sign.respan f, term.respan f)) =
        (Tree.moreTokens more).map (.respan f) := by
    induction more with
    | nil => rfl
    | cons p more ih =>
      obtain ⟨⟨sign, span⟩, term⟩ := p
      have hsign : signToken (Spanned.respan f ⟨sign, span⟩) =
          Spanned.respan f (signToken ⟨sign, span⟩) := by cases sign <;> rfl
      simp only [Tree.moreTokens, List.map_cons, List.flatMap_cons, List.map_append] at ih ⊢
      rw [ih, hsign, TermTree.tokens_respan]
  rw [Tree.tokens, Tree.tokens, List.map_append, ← hmore, ← TermTree.tokens_respan]
  rfl

theorem Tree.formula_respan (f : Span → Span) (t : Tree) : (t.respan f).formula = t.formula := by
  rw [Tree.formula, Tree.formula, Tree.respan, Tree.moreTerms, List.map_map, TermTree.term_respan]
  congr 2
  apply List.map_congr_left
  intro p _
  simp only [Function.comp, TermTree.term_respan]
  rfl

theorem Tree.Legal.respan {f : Span → Span}
    (hf : ∀ a b : Span, a.stop = b.start → (f a).stop = (f b).start) {t : Tree} (h : t.Legal) :
    (t.respan f).Legal := by
  refine ⟨h.1.respan hf, ?_⟩
  intro p hp
  obtain ⟨q, hq, rfl⟩ := List.mem_map.1 hp
  exact (h.2 q hq).respan hf

/-! ## Formulas between blanks -/

theorem parseChars_eq_ok {source : List Char} {f : Formula} :
    parseChars source = .ok f ↔
      ∃ t : Tree, t.Legal ∧ t.tokens = Token.scan source ∧ t.formula = f := by
  have h : parse (String.ofList source) = .ok f ↔ _ := parse_eq_ok.trans readTerms_eq_ok_iff
  rwa [parse, String.toList_ofList] at h

theorem known_of_parseChars {source : List Char} {f : Formula} (h : parseChars source = .ok f) :
    ∀ t ∈ Token.scan source, t.value.Known := by
  obtain ⟨tree, -, htokens, -⟩ := parseChars_eq_ok.1 h
  rw [← htokens, Tree.tokens, List.forall_mem_append]
  refine ⟨known_term _, ?_⟩
  intro t ht
  obtain ⟨p, -, hp⟩ := List.mem_flatMap.1 ht
  rcases List.mem_cons.1 hp with rfl | hp
  · exact known_of_sign (sign?_signToken p.1)
  · exact known_term _ t hp

/-- **A formula is read without the blanks around it**, and is the same one. -/
theorem parseChars_trim {source : List Char} {f : Formula} (h : parseChars source = .ok f) :
    parseChars (trim source) = .ok f := by
  obtain ⟨before, after, hsource, hbefore, hafter⟩ := exists_eq_append_trim source
  -- the blanks of a formula are spacing, which has no tokens
  have hspacing := Token.isSpacing_of_known (known_of_parseChars h)
  have hbefore' : ∀ c ∈ before, Token.isSpacing c = true := fun c hc =>
    hspacing c (by rw [hsource]; simp [hc]) (hbefore c hc)
  have hafter' : ∀ c ∈ after, Token.isSpacing c = true := fun c hc =>
    hspacing c (by rw [hsource]; simp [hc]) (hafter c hc)
  have hscan : Token.scanFrom (byteLength before) (trim source) = Token.scan source := by
    rw [Token.scan]
    conv_rhs => rw [hsource]
    rw [List.append_assoc, Token.scanFrom_spacing_append hbefore',
      Token.scanFrom_append_spacing hafter', Nat.zero_add]
  obtain ⟨tree, hlegal, htokens, hformula⟩ := parseChars_eq_ok.1 h
  -- moving all tokens back to the start keeps those together that touch
  set back : Span → Span := fun s => ⟨s.start - byteLength before, s.stop - byteLength before⟩
  refine parseChars_eq_ok.2 ⟨tree.respan back, hlegal.respan ?_, ?_, ?_⟩
  · intro a b hab
    exact congrArg (· - byteLength before) hab
  · have hshift := Token.scanFrom_shift (byteLength before) 0 (trim source)
    rw [Nat.zero_add, hscan] at hshift
    rw [Tree.tokens_respan, htokens, hshift, List.map_map, Token.scan]
    have hid : (Spanned.respan back ∘ Spanned.respan (·.shift (byteLength before)) :
        Spanned Token → Spanned Token) = id := by
      funext t
      simp [back, Spanned.respan, Span.shift]
    rw [hid, List.map_id]
  · rw [Tree.formula_respan, hformula]

end Formula

end Rulebook
