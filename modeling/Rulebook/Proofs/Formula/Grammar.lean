import Rulebook.Formula.Parser
import Rulebook.Proofs.Outcome

/-!
# The grammar of formulas

A formula splits its tokens into terms at `+` and `-`. The splits are described here apart from the
reader, as trees over spanned tokens, and the reader is measured by them.

* `TermTree`, `Tree`: the tokens of one term, and those of a formula split at its operators.
* `TermTree.Legal`: what a roll has to obey: count, `d` and sides touch, and none of its numbers
  is 0.
* `readTerm_sound`, `readTerm_complete`: what is read is a term that the tokens start with, and a term
  that an operator or the end follows is read as a whole.
* `readTerms_missed`: **a term is never accepted in place of a longer one that broke off further on.**
* `parse_iff_tree`: **a text is a formula exactly if its tokens split into the terms of the
  formula**, and there is never a second split.
-/

namespace Rulebook.Formula

/-- A number as a token. -/
def intToken (n : Spanned UInt32) : Spanned Token := ⟨.int n.value, n.span⟩

/-- An operator as a token. -/
def signToken (s : Spanned Sign) : Spanned Token :=
  match s.value with
  | .plus => ⟨.plus, s.span⟩
  | .minus => ⟨.minus, s.span⟩

/-- The tokens of a term. A multiplier comes with the span of its operator. -/
inductive TermTree where
  | flat (n : Spanned UInt32)
  | symbol (s : Symbol) (span : Span)
  | roll (count : Option (Spanned UInt32)) (die : Span) (sides : Spanned UInt32)
      (multiplier : Option (Span × Spanned UInt32))
  deriving DecidableEq, Repr

namespace TermTree

/-- A multiplier and its operator as tokens. -/
def multiplierTokens : Option (Span × Spanned UInt32) → List (Spanned Token)
  | none => []
  | some (times, m) => [⟨.times, times⟩, intToken m]

/-- The tokens of a term, in order. -/
def tokens : TermTree → List (Spanned Token)
  | flat n => [intToken n]
  | symbol s span => [⟨.symbol s.name, span⟩]
  | roll count die sides multiplier =>
    (count.map intToken).toList ++ ⟨.die, die⟩ :: intToken sides :: multiplierTokens multiplier

/-- What a term has to obey beyond the order of its tokens. -/
inductive Legal : TermTree → Prop where
  | flat (n : Spanned UInt32) : Legal (flat n)
  | symbol (s : Symbol) (span : Span) : Legal (symbol s span)
  | roll {count : Option (Spanned UInt32)} {die : Span} {sides : Spanned UInt32}
      {multiplier : Option (Span × Spanned UInt32)}
      (count_touches : ∀ c ∈ count, c.span.stop = die.start)
      (count_pos : ∀ c ∈ count, 0 < c.value)
      (sides_touch : die.stop = sides.span.start)
      (sides_pos : 0 < sides.value)
      (multiplier_pos : ∀ m ∈ multiplier, 0 < m.2.value) : Legal (roll count die sides multiplier)

/-- The term that the tokens mean. A count that is left out is 1. -/
def term : TermTree → Term
  | flat n => .flat n.value
  | symbol s _ => .symbol s
  | roll count _ sides multiplier =>
    .dice ⟨(count.map (·.value)).getD 1, sides.value, multiplier.map (·.2.value)⟩

end TermTree

/-- The tokens of a formula, split at its operators. -/
structure Tree where
  first : TermTree
  more : List (Spanned Sign × TermTree)
  deriving DecidableEq, Repr

namespace Tree

/-- Operators and terms behind the first term, as tokens. -/
def moreTokens (more : List (Spanned Sign × TermTree)) : List (Spanned Token) :=
  more.flatMap fun (sign, t) => signToken sign :: t.tokens

/-- The tokens of a formula, in order. -/
def tokens (t : Tree) : List (Spanned Token) := t.first.tokens ++ moreTokens t.more

/-- Every term obeys the rules. -/
def Legal (t : Tree) : Prop := t.first.Legal ∧ ∀ p ∈ t.more, p.2.Legal

/-- The terms behind the first one, each with the sign of its operator. -/
def moreTerms (more : List (Spanned Sign × TermTree)) : List SignedTerm :=
  more.map fun (sign, t) => ⟨sign.value, t.term⟩

/-- The formula that the tokens mean: the terms in order, the first of them added. -/
def formula (t : Tree) : Formula := ⟨⟨.plus, t.first.term⟩ :: moreTerms t.more⟩

end Tree

/-- What can stand behind a whole term: nothing, or an operator. -/
inductive Stops : List (Spanned Token) → Prop where
  | nil : Stops []
  | sign (s : Spanned Sign) (more : List (Spanned Token)) : Stops (signToken s :: more)

@[simp] theorem sign?_signToken (s : Spanned Sign) : (signToken s).value.sign? = some s.value := by
  obtain ⟨v, sp⟩ := s
  cases v <;> rfl

/-- What stands behind a whole term starts with an operator, if it starts at all. -/
theorem Stops.sign_of_cons {t : Spanned Token} {more : List (Spanned Token)}
    (h : Stops (t :: more)) : ∃ s, t.value.sign? = some s := by
  cases h with
  | sign s => exact ⟨s.value, sign?_signToken s⟩

theorem stops_moreTokens (more : List (Spanned Sign × TermTree)) :
    Stops (Tree.moreTokens more) := by
  rcases more with _ | ⟨⟨s, t⟩, more⟩
  · exact .nil
  · exact .sign s _

/-- A token with a sign is the token of an operator. -/
theorem eq_signToken {t : Spanned Token} {s : Sign} (h : t.value.sign? = some s) :
    t = signToken ⟨s, t.span⟩ := by
  obtain ⟨v, sp⟩ := t
  cases v <;> simp only [Token.sign?] at h <;> cases h <;> rfl

/-- The head of a roll has no fault exactly if its parts touch and its numbers are not 0. -/
theorem headFault?_eq_none_iff {count : Option (Spanned UInt32)} {die : Span}
    {sides : Spanned UInt32} :
    headFault? count die sides = none ↔
      (∀ c ∈ count, c.span.stop = die.start) ∧ (∀ c ∈ count, 0 < c.value) ∧
        die.stop = sides.span.start ∧ 0 < sides.value := by
  unfold headFault?
  simp only [UInt32.pos_iff_ne_zero]
  rcases count with _ | c
  · by_cases hd : die.stop = sides.span.start <;> by_cases hs : sides.value = 0 <;> simp [hd, hs]
  · by_cases hc : c.span.stop = die.start
    · by_cases hd : die.stop = sides.span.start <;> by_cases hz : c.value = 0 <;>
        by_cases hs : sides.value = 0 <;> simp [hc, hd, hz, hs]
    · simp [hc]

/-! ## What is read is a term -/

theorem readMultiplier_sound {start : Nat} {count sides : UInt32} {tokens : List (Spanned Token)}
    {r : TermReading} (h : readMultiplier start ⟨count, sides, none⟩ tokens = .ok r) :
    ∃ m : Option (Span × Spanned UInt32), (∀ x ∈ m, 0 < x.2.value) ∧
      tokens = TermTree.multiplierTokens m ++ r.rest ∧
      r.term = .dice ⟨count, sides, m.map (·.2.value)⟩ := by
  unfold readMultiplier at h
  split at h
  · rename_i times m s rest
    split at h
    · cases h
    · rename_i hm
      cases h
      refine ⟨some (times, ⟨m, s⟩), ?_, rfl, rfl⟩
      intro x hx
      cases hx
      exact UInt32.pos_iff_ne_zero.2 (by simpa using hm)
  · -- the multiplication sign is left over
    cases h
    exact ⟨none, by simp, rfl, rfl⟩
  · cases h
    exact ⟨none, by simp, rfl, rfl⟩

theorem readRoll_sound {count : Option (Spanned UInt32)} {die : Span}
    {tokens : List (Spanned Token)} {r : TermReading} (h : readRoll count die tokens = .ok r) :
    ∃ (sides : Spanned UInt32) (m : Option (Span × Spanned UInt32)),
      (TermTree.roll count die sides m).Legal ∧
      tokens = intToken sides :: (TermTree.multiplierTokens m ++ r.rest) ∧
      r.term = (TermTree.roll count die sides m).term := by
  unfold readRoll at h
  split at h
  · rename_i n s rest
    simp only at h
    split at h
    · cases h
    · rename_i hf
      obtain ⟨h1, h2, h3, h4⟩ := headFault?_eq_none_iff.1 hf
      obtain ⟨m, hm, ht, hr⟩ := readMultiplier_sound h
      exact ⟨⟨n, s⟩, m, .roll h1 h2 h3 h4 hm, by rw [ht]; rfl, hr⟩
  · cases h

/-- **A term that is read stands at the start of the tokens.** -/
theorem readTerm_sound {tokens : List (Spanned Token)} {r : TermReading}
    (h : readTerm tokens = .ok r) :
    ∃ t : TermTree, t.Legal ∧ tokens = t.tokens ++ r.rest ∧ r.term = t.term := by
  unfold readTerm at h
  split at h
  · rename_i n s d rest
    split at h
    · rename_i reading hroll
      cases h
      obtain ⟨sides, m, hl, ht, hr⟩ := readRoll_sound hroll
      exact ⟨.roll (some ⟨n, s⟩) d sides m, hl, by rw [ht]; rfl, hr⟩
    · -- what is no roll counts as a number, and its `d` is left over
      cases h
      exact ⟨.flat ⟨n, s⟩, .flat _, rfl, rfl⟩
  · rename_i n s rest _
    cases h
    exact ⟨.flat ⟨n, s⟩, .flat _, rfl, rfl⟩
  · rename_i d rest
    obtain ⟨sides, m, hl, ht, hr⟩ := readRoll_sound h
    exact ⟨.roll none d sides m, hl, by rw [ht]; rfl, hr⟩
  · rename_i name s rest
    split at h
    · rename_i symbol hs
      cases h
      refine ⟨.symbol symbol s, .symbol _ _, ?_, rfl⟩
      rw [← Symbol.name_of_ofName? hs]; rfl
    · cases h
  · cases h

/-- **The terms that are read are a split of the tokens.** -/
theorem readTerms_sound {sign : Sign} {tokens : List (Spanned Token)} {terms : List SignedTerm}
    (h : readTerms sign tokens = .ok terms) :
    ∃ t : Tree, t.Legal ∧ t.tokens = tokens ∧
      terms = ⟨sign, t.first.term⟩ :: Tree.moreTerms t.more := by
  fun_induction readTerms sign tokens generalizing terms with
  | case1 sign tokens refusal hr => cases h
  | case2 sign tokens r hr hrest =>
    cases h
    obtain ⟨t, hl, ht, hterm⟩ := readTerm_sound hr
    refine ⟨⟨t, []⟩, ⟨hl, by simp⟩, ?_, by rw [hterm]; rfl⟩
    rw [ht, hrest]; rfl
  | case3 sign tokens r hr op more hrest next hsign ih =>
    obtain ⟨v, span⟩ := op
    have hop := eq_signToken hsign
    obtain ⟨terms', hmore, rfl⟩ := map_eq_ok h
    obtain ⟨t, hl, ht, hterm⟩ := readTerm_sound hr
    obtain ⟨tree, ⟨hfirst, hrests⟩, htokens, rfl⟩ := ih hmore
    refine ⟨⟨t, (⟨next, span⟩, tree.first) :: tree.more⟩, ⟨hl, ?_⟩, ?_, ?_⟩
    · intro p hp
      rcases List.mem_cons.1 hp with rfl | hp
      · exact hfirst
      · exact hrests p hp
    · rw [ht, hrest, hop, ← htokens]; rfl
    · rw [hterm]; rfl
  | case4 sign tokens r hr op more hrest hsign => cases h

/-! ## Terms in place of longer ones -/

/-- How the reader goes on behind a term. -/
theorem readTerms_of_ok {sign : Sign} {tokens : List (Spanned Token)} {r : TermReading}
    (h : readTerm tokens = .ok r) :
    readTerms sign tokens =
      match r.rest with
      | [] => .ok [⟨sign, r.term⟩]
      | t :: more =>
        match t.value.sign? with
        | some next => (⟨sign, r.term⟩ :: ·) <$> readTerms next more
        | none => .error (r.missed.getD (.unexpected (some t) r.expected)) := by
  rw [readTerms]
  split
  · rename_i he
    rw [h] at he; cases he
  · rename_i r' he
    rw [h] at he; cases he
    split
    · rename_i hrest
      simp only [hrest]
    · rename_i t more hrest
      cases hsign : t.value.sign? <;> simp only [hrest, hsign]

/-- The reader goes on behind an operator. -/
theorem readTerms_sign {sign : Sign} {tokens more : List (Spanned Token)} {t : Term}
    {longer : List Token} {missed : Option Refusal} {next : Spanned Sign}
    (h : readTerm tokens = .ok ⟨t, longer, missed, signToken next :: more⟩) :
    readTerms sign tokens = (⟨sign, t⟩ :: ·) <$> readTerms next.value more := by
  rw [readTerms_of_ok h]
  simp only [sign?_signToken]

/-- A roll without the multiplier that was tried leaves the multiplication sign over. -/
theorem readMultiplier_missed {start : Nat} {roll : Roll} {tokens : List (Spanned Token)}
    {r : TermReading} (h : readMultiplier start roll tokens = .ok r) {missed : Refusal}
    (hmissed : r.missed = some missed) :
    ∃ times more, r.rest = ⟨.times, times⟩ :: more ∧ missed = .unexpected more.head? [] := by
  unfold readMultiplier at h
  split at h
  · split at h
    · cases h
    · cases h; cases hmissed
  · cases h; cases hmissed
    exact ⟨_, _, rfl, rfl⟩
  · cases h; cases hmissed

theorem readRoll_missed {count : Option (Spanned UInt32)} {die : Span}
    {tokens : List (Spanned Token)} {r : TermReading} (h : readRoll count die tokens = .ok r)
    {missed : Refusal} (hmissed : r.missed = some missed) :
    ∃ times more, r.rest = ⟨.times, times⟩ :: more ∧ missed = .unexpected more.head? [] := by
  unfold readRoll at h
  split at h
  · split at h
    · cases h
    · exact readMultiplier_missed h hmissed
  · cases h

/-- A multiplier is refused for a fault only. -/
theorem readMultiplier_eq_error {start : Nat} {roll : Roll} {tokens : List (Spanned Token)}
    {refusal : Refusal} (h : readMultiplier start roll tokens = .error refusal) :
    ∃ cause stop, refusal = .fault cause ⟨start, stop⟩ := by
  unfold readMultiplier at h
  split at h
  · split at h
    · cases h
      exact ⟨_, _, rfl⟩
    · cases h
  · cases h
  · cases h

/-- **A roll is refused** for a fault, which counts where it starts, or because its `d` has no sides. -/
theorem readRoll_eq_error {count : Option (Spanned UInt32)} {die : Span}
    {tokens : List (Spanned Token)} {refusal : Refusal}
    (h : readRoll count die tokens = .error refusal) :
    (∃ cause stop,
      refusal = .fault cause ⟨(count.map (·.span.start)).getD die.start, stop⟩) ∨
        refusal = .unexpected tokens.head? [] := by
  unfold readRoll at h
  split at h
  · split at h
    · cases h
      exact .inl ⟨_, _, rfl⟩
    · exact .inl (readMultiplier_eq_error h)
  · cases h
    exact .inr rfl

/-- **What a term leaves over when a longer one broke off further on**: the `d` behind a number, or the
multiplication sign behind a roll. The longer one is refused behind that token. -/
theorem readTerm_missed {tokens : List (Spanned Token)} {r : TermReading}
    (h : readTerm tokens = .ok r) {missed : Refusal} (hmissed : r.missed = some missed) :
    ∃ t more, r.rest = t :: more ∧ (t.value = .die ∨ t.value = .times) ∧
      missed = .unexpected more.head? [] := by
  unfold readTerm at h
  split at h
  · split at h
    · rename_i reading hr
      cases h
      obtain ⟨times, more, hrest, hunexpected⟩ := readRoll_missed hr hmissed
      exact ⟨_, more, hrest, .inr rfl, hunexpected⟩
    · rename_i refusal hr
      cases h
      rcases readRoll_eq_error hr with ⟨cause, stop, rfl⟩ | rfl
      · cases hmissed
      · cases hmissed
        exact ⟨_, _, rfl, .inl rfl, rfl⟩
  · cases h; cases hmissed
  · obtain ⟨times, more, hrest, hunexpected⟩ := readRoll_missed h hmissed
    exact ⟨_, more, hrest, .inr rfl, hunexpected⟩
  · split at h
    · cases h; cases hmissed
    · cases h
  · cases h

/-- **A term is not accepted in place of a longer one that broke off further on**: the formula is
refused for the longer one. -/
theorem readTerms_missed {sign : Sign} {tokens : List (Spanned Token)} {r : TermReading}
    (h : readTerm tokens = .ok r) {missed : Refusal} (hmissed : r.missed = some missed) :
    readTerms sign tokens = .error missed := by
  obtain ⟨t, more, hrest, ht, -⟩ := readTerm_missed h hmissed
  have hsign : t.value.sign? = none := by
    rcases ht with ht | ht <;> rw [ht] <;> rfl
  rw [readTerms_of_ok h, hrest]
  simp only [hsign, hmissed, Option.getD_some]

-- the number of `1d+1` is a term, and its `d` is left over: the roll is refused at the `+`
example : (readTerm (Token.scan "1d+1".toList)).toOption.map (·.term) = some (.flat 1) ∧
    readTerms .plus (Token.scan "1d+1".toList) =
      .error (.unexpected (some ⟨.plus, ⟨2, 3⟩⟩) []) := by decide +kernel

/-! ## Every term is read -/

theorem readMultiplier_complete (start : Nat) (count sides : UInt32)
    {m : Option (Span × Spanned UInt32)} (hm : ∀ x ∈ m, 0 < x.2.value)
    {rest : List (Spanned Token)} (hs : Stops rest) :
    ∃ longer, readMultiplier start ⟨count, sides, none⟩ (TermTree.multiplierTokens m ++ rest) =
      .ok ⟨.dice ⟨count, sides, m.map (·.2.value)⟩, longer, none, rest⟩ := by
  rcases m with _ | ⟨times, n, s⟩
  · refine ⟨[.times], ?_⟩
    rcases hs with _ | ⟨⟨sign, span⟩, more⟩
    · rfl
    · cases sign <;> rfl
  · refine ⟨[], ?_⟩
    have hn : (n == 0) = false := by simpa using UInt32.pos_iff_ne_zero.1 (hm _ rfl)
    simp [TermTree.multiplierTokens, intToken, readMultiplier, hn]

theorem readRoll_complete {count : Option (Spanned UInt32)} {die : Span} {sides : Spanned UInt32}
    {m : Option (Span × Spanned UInt32)} (hl : (TermTree.roll count die sides m).Legal)
    {rest : List (Spanned Token)} (hs : Stops rest) :
    ∃ longer, readRoll count die (intToken sides :: (TermTree.multiplierTokens m ++ rest)) =
      .ok ⟨(TermTree.roll count die sides m).term, longer, none, rest⟩ := by
  cases hl with
  | roll count_touches count_pos sides_touch sides_pos multiplier_pos =>
    have hf : headFault? count die sides = none :=
      headFault?_eq_none_iff.2 ⟨count_touches, count_pos, sides_touch, sides_pos⟩
    obtain ⟨longer, hr⟩ := readMultiplier_complete ((count.map (·.span.start)).getD die.start)
      ((count.map (·.value)).getD 1) sides.value multiplier_pos hs
    refine ⟨longer, ?_⟩
    simp only [readRoll, intToken, hf]
    exact hr

/-- **Every term is read as a whole**, if nothing but an operator can follow it. -/
theorem readTerm_complete {t : TermTree} (hl : t.Legal) {rest : List (Spanned Token)}
    (hs : Stops rest) :
    ∃ longer, readTerm (t.tokens ++ rest) = .ok ⟨t.term, longer, none, rest⟩ := by
  cases t with
  | flat n =>
    refine ⟨[.die], ?_⟩
    -- no `d` follows that would make the number a count
    rcases hs with _ | ⟨⟨sign, span⟩, more⟩
    · rfl
    · cases sign <;> rfl
  | symbol s span =>
    refine ⟨[], ?_⟩
    simp [TermTree.tokens, readTerm, TermTree.term]
  | roll count die sides m =>
    obtain ⟨longer, hr⟩ := readRoll_complete hl hs
    refine ⟨longer, ?_⟩
    cases count with
    | none => exact hr
    | some c =>
      simp only [TermTree.tokens, Option.map_some, Option.toList_some, List.cons_append,
        List.nil_append, intToken, readTerm] at hr ⊢
      rw [hr]

/-- **Every split is read as its terms.** -/
theorem readTerms_complete (more : List (Spanned Sign × TermTree)) {first : TermTree}
    (hf : first.Legal) (hm : ∀ p ∈ more, p.2.Legal) (sign : Sign) :
    readTerms sign (first.tokens ++ Tree.moreTokens more) =
      .ok (⟨sign, first.term⟩ :: Tree.moreTerms more) := by
  induction more generalizing first sign with
  | nil =>
    obtain ⟨longer, hr⟩ := readTerm_complete hf (stops_moreTokens [])
    exact readTerms_of_ok hr
  | cons p more ih =>
    obtain ⟨next, t⟩ := p
    obtain ⟨longer, hr⟩ := readTerm_complete hf (stops_moreTokens ((next, t) :: more))
    have ht : t.Legal := hm _ List.mem_cons_self
    have hrest := ih ht (fun q hq => hm q (List.mem_cons_of_mem _ hq)) next.value
    rw [readTerms_sign hr]
    show (⟨sign, first.term⟩ :: ·) <$> readTerms next.value (t.tokens ++ Tree.moreTokens more) = _
    rw [hrest]; rfl

/-! ## No second split -/

theorem intToken_inj {a b : Spanned UInt32} : intToken a = intToken b ↔ a = b := by
  obtain ⟨x, s⟩ := a
  obtain ⟨y, s'⟩ := b
  simp [intToken]

theorem signToken_inj {a b : Spanned Sign} : signToken a = signToken b ↔ a = b := by
  obtain ⟨x, s⟩ := a
  obtain ⟨y, s'⟩ := b
  cases x <;> cases y <;> simp [signToken]

/-- The multiplier is found again in front of what follows the term. -/
theorem multiplierTokens_append_inj {m m' : Option (Span × Spanned UInt32)}
    {rest rest' : List (Spanned Token)} (hs : Stops rest) (hs' : Stops rest')
    (h : TermTree.multiplierTokens m ++ rest = TermTree.multiplierTokens m' ++ rest') :
    m = m' ∧ rest = rest' := by
  rcases m with _ | ⟨times, n⟩ <;> rcases m' with _ | ⟨times', n'⟩ <;>
    simp only [TermTree.multiplierTokens, List.nil_append, List.cons_append] at h
  · exact ⟨rfl, h⟩
  · rw [h] at hs
    obtain ⟨s, hsign⟩ := hs.sign_of_cons; cases hsign
  · rw [← h] at hs'
    obtain ⟨s, hsign⟩ := hs'.sign_of_cons; cases hsign
  · simp only [List.cons.injEq, Spanned.mk.injEq, true_and, intToken_inj] at h
    obtain ⟨rfl, rfl, rfl⟩ := h
    exact ⟨rfl, rfl⟩

/-- The `d`, the sides and the multiplier of a roll are found again. -/
theorem rollTokens_append_inj {die die' : Span} {sides sides' : Spanned UInt32}
    {m m' : Option (Span × Spanned UInt32)} {rest rest' : List (Spanned Token)}
    (hs : Stops rest) (hs' : Stops rest')
    (h : (⟨.die, die⟩ :: intToken sides :: TermTree.multiplierTokens m) ++ rest =
      (⟨.die, die'⟩ :: intToken sides' :: TermTree.multiplierTokens m') ++ rest') :
    die = die' ∧ sides = sides' ∧ m = m' ∧ rest = rest' := by
  simp only [List.cons_append, List.cons.injEq, Spanned.mk.injEq, true_and, intToken_inj] at h
  obtain ⟨hd, hn, hm⟩ := h
  exact ⟨hd, hn, multiplierTokens_append_inj hs hs' hm⟩

/-- A number that a term stops behind is not the count of a roll. -/
theorem flat_ne_roll {n c : Spanned UInt32} {die : Span} {more rest : List (Spanned Token)}
    (hs : Stops rest) : intToken n :: rest ≠ intToken c :: ⟨.die, die⟩ :: more := by
  intro h
  rw [(List.cons.inj h).2] at hs
  obtain ⟨s, hsign⟩ := hs.sign_of_cons
  cases hsign

/-- **A term is found again** in its tokens and what follows them. -/
theorem tokens_append_inj {t t' : TermTree} {rest rest' : List (Spanned Token)}
    (hs : Stops rest) (hs' : Stops rest') (h : t.tokens ++ rest = t'.tokens ++ rest') :
    t = t' ∧ rest = rest' := by
  -- most terms differ in their first token; a number and a roll with a count in the second one
  rcases t with n | ⟨s, span⟩ | ⟨_ | c, die, sides, m⟩ <;>
    rcases t' with n' | ⟨s', span'⟩ | ⟨_ | c', die', sides', m'⟩
  · obtain ⟨hn, hr⟩ := List.cons.inj h
    exact ⟨by rw [intToken_inj.1 hn], hr⟩
  · cases h
  · cases h
  · exact absurd h (flat_ne_roll hs)
  · cases h
  · obtain ⟨hn, hr⟩ := List.cons.inj h
    cases s; cases s'; cases hn
    exact ⟨rfl, hr⟩
  · cases h
  · cases h
  · cases h
  · cases h
  · obtain ⟨rfl, rfl, rfl, hr⟩ := rollTokens_append_inj hs hs' h
    exact ⟨rfl, hr⟩
  · cases h
  · exact absurd h.symm (flat_ne_roll hs')
  · cases h
  · cases h
  · obtain ⟨hc, ht⟩ := List.cons.inj h
    obtain ⟨rfl, rfl, rfl, hr⟩ := rollTokens_append_inj hs hs' ht
    exact ⟨by rw [intToken_inj.1 hc], hr⟩

/-- **The operators of a split are found again**, one after the other. -/
theorem moreTokens_injective (more : List (Spanned Sign × TermTree)) :
    ∀ more', Tree.moreTokens more = Tree.moreTokens more' → more = more' := by
  induction more with
  | nil =>
    intro more' h
    rcases more' with _ | ⟨p, more'⟩
    · rfl
    · cases h
  | cons p more ih =>
    intro more' h
    rcases more' with _ | ⟨p', more'⟩
    · cases h
    · obtain ⟨hsign, hrest⟩ := List.cons.inj h
      obtain ⟨ht, hmore⟩ := tokens_append_inj (stops_moreTokens more) (stops_moreTokens more') hrest
      rw [ih more' hmore, Prod.ext (signToken_inj.1 hsign) ht]

/-- **No list of tokens has two splits**, whether or not they obey the rules. -/
theorem tokens_injective : Function.Injective Tree.tokens := by
  intro t t' h
  obtain ⟨hfirst, hmore⟩ :=
    tokens_append_inj (stops_moreTokens t.more) (stops_moreTokens t'.more) h
  obtain ⟨first, more⟩ := t
  obtain ⟨first', more'⟩ := t'
  rw [Tree.mk.injEq]
  exact ⟨hfirst, moreTokens_injective more more' hmore⟩

/-! ## The grammar -/

/-- The reader accepts the tokens of a formula, and nothing else. -/
theorem readTerms_eq_ok_iff {tokens : List (Spanned Token)} {f : Formula} :
    readTerms .plus tokens = .ok f.terms ↔
      ∃ t : Tree, t.Legal ∧ t.tokens = tokens ∧ t.formula = f := by
  constructor
  · intro h
    obtain ⟨t, hl, ht, hf⟩ := readTerms_sound h
    exact ⟨t, hl, ht, by rw [Tree.formula, ← hf]⟩
  · rintro ⟨t, ⟨hfirst, hmore⟩, rfl, rfl⟩
    exact readTerms_complete t.more hfirst hmore .plus

/-- A text is a formula exactly if the reader accepts its tokens. -/
theorem parse_eq_ok {text : String} {f : Formula} :
    parse text = .ok f ↔ readTerms .plus (Token.scan text.toList) = .ok f.terms := by
  unfold parse parseChars
  cases readTerms .plus (Token.scan text.toList) with
  | ok terms =>
    obtain ⟨terms'⟩ := f
    simp only [Except.ok.injEq, Formula.mk.injEq]
  | error refusal => simp only [reduceCtorEq]

/-- **The grammar of formulas.** A text is a formula exactly if its tokens split into legal terms at
`+` and `-`, and then the formula is these terms in order, the first one added and each other one
with the sign of its operator. No list of tokens has two splits. -/
theorem parse_iff_tree :
    (∀ (text : String) (f : Formula), parse text = .ok f ↔
      ∃ t : Tree, t.Legal ∧ t.tokens = Token.scan text.toList ∧ t.formula = f) ∧
    Function.Injective Tree.tokens :=
  ⟨fun _ _ => parse_eq_ok.trans readTerms_eq_ok_iff, tokens_injective⟩

end Rulebook.Formula
