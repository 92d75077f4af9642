import Mathlib.Data.List.Chain
import Rulebook.Proofs.Formula.Printed
import Rulebook.Proofs.Formula.Seams
import Rulebook.Proofs.Formula.Spacing

/-!
# Tokens that touch

Where its tokens stand matters to a formula only in one way: count, `d` and sides of a roll touch.

* `Glued`, `Touching`: tokens that have to touch, and tokens of which all that have to do so.
* `isChain_tokens`: what holds of any two tokens of a formula that follow one another.
  `Tree.legal_iff`: **a split is legal exactly if its terms are positive and its tokens touch.**
  `isMark_tokens`: of any two of them one is a mark.
* `parseChars_touching`, `parseChars_of_values`: **texts with the same tokens** are the same formula, if
  the glued ones touch in both, and no formula otherwise.
-/

namespace Rulebook

namespace Token

/-- **Tokens that have to touch** in a formula: a number in front of a `d`, which is the count of a
roll, and a number behind one, which is its sides. -/
def Glued : Token → Token → Prop
  | int _, die => True
  | die, int _ => True
  | _, _ => False

/-- Tokens of which those touch that are glued. -/
def Touching (tokens : List (Spanned Token)) : Prop :=
  tokens.IsChain fun t u => Glued t.value u.value → t.span.stop = u.span.start

theorem touching_append {before behind : List (Spanned Token)} :
    Touching (before ++ behind) ↔ Touching before ∧ Touching behind ∧
      ∀ t ∈ before.getLast?, ∀ u ∈ behind.head?,
        Glued t.value u.value → t.span.stop = u.span.start :=
  List.isChain_append

/-- Tokens touch further to the right as they do here. -/
theorem touching_shift {k : Nat} {tokens : List (Spanned Token)} :
    Touching (tokens.map (.respan (·.shift k))) ↔ Touching tokens := by
  unfold Touching
  rw [List.isChain_map]
  simp only [Spanned.respan, Span.shift, Nat.add_right_cancel_iff]

/-- Tokens with the same values differ in their spans only. -/
theorem exists_respan {tokens others : List (Spanned Token)} (hnodup : (tokens.map (·.span)).Nodup)
    (hvalues : others.map (·.value) = tokens.map (·.value)) :
    ∃ f : Span → Span, others = tokens.map (.respan f) := by
  induction tokens generalizing others with
  | nil => exact ⟨id, List.map_eq_nil_iff.1 hvalues⟩
  | cons t tokens ih =>
    obtain ⟨hnot, hnodup⟩ := List.nodup_cons.1 hnodup
    obtain ⟨u, others, rfl⟩ : ∃ u us, others = u :: us := by
      refine List.exists_cons_of_ne_nil ?_
      rintro rfl
      cases hvalues
    have hvalue : u.value = t.value := (List.cons.inj hvalues).1
    obtain ⟨f, rfl⟩ := ih hnodup (List.cons.inj hvalues).2
    -- the span of the first token is that of no other one
    refine ⟨Function.update f t.span u.span, ?_⟩
    rw [List.map_cons]
    congr 1
    · rw [Spanned.respan, Function.update_self, ← hvalue]
    · refine List.map_congr_left fun v hv => ?_
      have hne : v.span ≠ t.span := by
        intro heq
        have hmem : v.span ∈ tokens.map (·.span) := List.mem_map_of_mem hv
        rw [heq] at hmem
        exact hnot hmem
      rw [Spanned.respan, Spanned.respan, Function.update_of_ne hne]

theorem Located.spans_nodup {text : List Char} {tokens : List (Spanned Token)}
    (h : Located text tokens) : (tokens.map (·.span)).Nodup := by
  rw [List.Nodup, List.pairwise_map]
  refine h.ordered.imp_of_mem fun {t u} ht _ hle heq => ?_
  have hlt := h.nonempty t ht
  rw [heq] at hle hlt
  omega

end Token

namespace Formula

open Token (IsMark Glued Touching)

/-! ## The tokens of a split -/

theorem isMark_signToken (s : Spanned Sign) : (signToken s).value.IsMark := by
  obtain ⟨v, span⟩ := s
  cases v <;> trivial

theorem not_glued_signToken (s : Spanned Sign) (t : Token) :
    ¬ Glued (signToken s).value t ∧ ¬ Glued t (signToken s).value := by
  obtain ⟨v, span⟩ := s
  cases v <;> cases t <;> exact ⟨id, id⟩

/-- **What holds of any two tokens that follow one another**, if an operator may stand next to
anything: it holds within each term. -/
theorem isChain_tokens {R : Spanned Token → Spanned Token → Prop}
    (hleft : ∀ s t, R (signToken s) t) (hright : ∀ s t, R t (signToken s)) (t : Tree) :
    t.tokens.IsChain R ↔ t.first.tokens.IsChain R ∧ ∀ p ∈ t.more, p.2.tokens.IsChain R := by
  have key : ∀ (more : List (Spanned Sign × TermTree)) (first : List (Spanned Token)),
      (first ++ Tree.moreTokens more).IsChain R ↔
        first.IsChain R ∧ ∀ p ∈ more, p.2.tokens.IsChain R := by
    intro more
    induction more with
    | nil => simp [Tree.moreTokens]
    | cons p more ih =>
      intro first
      obtain ⟨s, term⟩ := p
      have hmore : Tree.moreTokens ((s, term) :: more) =
          signToken s :: (term.tokens ++ Tree.moreTokens more) := rfl
      rw [hmore, List.isChain_append, List.isChain_cons, ih, List.forall_mem_cons]
      constructor
      · rintro ⟨hfirst, ⟨-, hterms⟩, -⟩
        exact ⟨hfirst, hterms⟩
      · rintro ⟨hfirst, hterms⟩
        refine ⟨hfirst, ⟨fun t _ => hleft s t, hterms⟩, ?_⟩
        intro t _ u hu
        cases hu
        exact hright s t
  exact key t.more t.first.tokens

/-- Of two tokens of a formula that follow one another, one is a mark. -/
theorem isMark_tokens (t : Tree) :
    t.tokens.IsChain fun t u => t.value.IsMark ∨ u.value.IsMark := by
  have hterm : ∀ t : TermTree, t.tokens.IsChain fun t u => t.value.IsMark ∨ u.value.IsMark := by
    intro t
    rcases t with n | ⟨s, span⟩ | ⟨_ | c, die, sides, _ | m⟩ <;>
      simp [TermTree.tokens, TermTree.multiplierTokens, IsMark]
  exact (isChain_tokens (fun s _ => .inl (isMark_signToken s)) (fun s _ => .inr (isMark_signToken s))
    t).2 ⟨hterm t.first, fun p _ => hterm p.2⟩

/-- The tokens of a term touch exactly if count, `d` and sides of a roll do. -/
theorem touching_roll (count : Option (Spanned UInt32)) (die : Span) (sides : Spanned UInt32)
    (m : Option (Span × Spanned UInt32)) :
    Touching (TermTree.roll count die sides m).tokens ↔
      (∀ c ∈ count, c.span.stop = die.start) ∧ die.stop = sides.span.start := by
  rcases count with _ | c <;> rcases m with _ | m <;>
    simp [Touching, TermTree.tokens, TermTree.multiplierTokens, intToken, Glued]

/-- **A term is legal** exactly if it is positive and its tokens touch. -/
theorem TermTree.legal_iff (t : TermTree) : t.Legal ↔ t.term.Positive ∧ Touching t.tokens := by
  constructor
  · intro h
    refine ⟨h.positive, ?_⟩
    cases h with
    | flat n => exact List.isChain_singleton _
    | symbol s span => exact List.isChain_singleton _
    | roll count_touches _ sides_touch _ _ =>
      exact (touching_roll _ _ _ _).2 ⟨count_touches, sides_touch⟩
  · rintro ⟨hpositive, htouching⟩
    cases t with
    | flat n => exact .flat n
    | symbol s span => exact .symbol s span
    | roll count die sides m =>
      obtain ⟨hcount, hsides⟩ := (touching_roll count die sides m).1 htouching
      obtain ⟨hcountPos, hsidesPos, hmPos⟩ := hpositive _ rfl
      refine .roll hcount ?_ hsides hsidesPos ?_
      · rintro c rfl
        exact hcountPos
      · rintro x rfl
        exact hmPos _ rfl

/-- **A split is legal** exactly if the terms of its formula are positive and its tokens touch. -/
theorem Tree.legal_iff (t : Tree) :
    t.Legal ↔ (∀ x ∈ t.formula.terms, x.term.Positive) ∧ Touching t.tokens := by
  have hchain : Touching t.tokens ↔ _ := isChain_tokens
    (fun s t h => absurd h (not_glued_signToken s t.value).1)
    (fun s t h => absurd h (not_glued_signToken s t.value).2) t
  have hterms : (∀ x ∈ t.formula.terms, x.term.Positive) ↔
      t.first.term.Positive ∧ ∀ p ∈ t.more, p.2.term.Positive := by
    rw [Tree.formula, List.forall_mem_cons, Tree.moreTerms, List.forall_mem_map]
  rw [hchain, hterms, Tree.Legal, TermTree.legal_iff]
  simp only [TermTree.legal_iff]
  constructor
  · rintro ⟨⟨hfirst, hfirstTouching⟩, hmore⟩
    exact ⟨⟨hfirst, fun p hp => (hmore p hp).1⟩, hfirstTouching, fun p hp => (hmore p hp).2⟩
  · rintro ⟨⟨hfirst, hmore⟩, hfirstTouching, hmoreTouching⟩
    exact ⟨⟨hfirst, hfirstTouching⟩, fun p hp => ⟨hmore p hp, hmoreTouching p hp⟩⟩

/-! ## Texts with the same tokens -/

variable {source other : List Char} {f : Formula}

/-- The tokens of a formula touch. -/
theorem parseChars_touching (h : parseChars source = .ok f) : Touching (Token.scan source) := by
  obtain ⟨t, hlegal, htokens, -⟩ := parseChars_eq_ok.1 h
  rw [← htokens]
  exact (t.legal_iff.1 hlegal).2

/-- Of two tokens of a formula that follow one another, one is a mark. -/
theorem parseChars_isMark (h : parseChars source = .ok f) :
    (Token.scan source).IsChain fun t u => t.value.IsMark ∨ u.value.IsMark := by
  obtain ⟨t, -, htokens, -⟩ := parseChars_eq_ok.1 h
  rw [← htokens]
  exact isMark_tokens t

/-- **A text with the tokens of a formula is the same formula**, if those touch that are glued. -/
theorem parseChars_of_values (h : parseChars source = .ok f)
    (hvalues : (Token.scan other).map (·.value) = (Token.scan source).map (·.value))
    (htouching : Touching (Token.scan other)) : parseChars other = .ok f := by
  obtain ⟨t, hlegal, htokens, hformula⟩ := parseChars_eq_ok.1 h
  obtain ⟨g, hg⟩ := Token.exists_respan (Token.scan_located source).spans_nodup hvalues
  have hother : (t.respan g).tokens = Token.scan other := by rw [Tree.tokens_respan, htokens, hg]
  refine parseChars_eq_ok.2 ⟨t.respan g, (Tree.legal_iff _).2 ⟨?_, ?_⟩, hother, ?_⟩
  · rw [Tree.formula_respan]
    exact (t.legal_iff.1 hlegal).1
  · rw [hother]
    exact htouching
  · rw [Tree.formula_respan, hformula]

end Formula

end Rulebook
