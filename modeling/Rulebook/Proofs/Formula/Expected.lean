import Rulebook.Proofs.Formula.Touching

/-!
# What was expected

An error tells what could have stood in its place. The reader tries more than one way to read a term,
and blames the way that got furthest.

* `Whole`, `Pending`: tokens that are a formula, and tokens that break off behind a mark.
* `TermReading.Extends`: a term that goes on with what could have made it longer.
* `Refusal.After`: **what a refusal says of the tokens in front of the one it blames**: they break off,
  or they are a formula, and what it expects goes on with it. `readTerms_after`: every refusal of the
  reader does so.
* `Truthful`: expectations that hold of a text. `parse_expected`: **those of an error hold of the text
  before its span.**
-/

namespace Rulebook.Formula

open Token (IsMark isSpacing)

variable {tokens read rest : List (Spanned Token)}

/-! ## Formulas and what breaks off -/

/-- The tokens of a formula. -/
def Whole (tokens : List (Spanned Token)) : Prop := ∃ t : Tree, t.Legal ∧ t.tokens = tokens

/-- **Tokens that break off**: there are none, or the last one is a mark. -/
def Pending (tokens : List (Spanned Token)) : Prop := ∀ t ∈ tokens.getLast?, t.value.IsMark

theorem exists_parseChars_iff {source : List Char} :
    (∃ f, parseChars source = .ok f) ↔ Whole (Token.scan source) := by
  constructor
  · rintro ⟨f, h⟩
    obtain ⟨t, hlegal, htokens, -⟩ := parseChars_eq_ok.1 h
    exact ⟨t, hlegal, htokens⟩
  · rintro ⟨t, hlegal, htokens⟩
    exact ⟨t.formula, parseChars_eq_ok.2 ⟨t, hlegal, htokens, rfl⟩⟩

/-- A term ends with a number or a symbol. -/
theorem TermTree.tokens_last (t : TermTree) :
    ∃ init last, t.tokens = init ++ [last] ∧ ¬ last.value.IsMark := by
  rcases t with n | ⟨s, span⟩ | ⟨count, die, sides, _ | ⟨times, m⟩⟩
  · exact ⟨[], _, rfl, id⟩
  · exact ⟨[], _, rfl, id⟩
  · exact ⟨(count.map intToken).toList ++ [⟨.die, die⟩], intToken sides,
      by simp [tokens, multiplierTokens], id⟩
  · exact ⟨(count.map intToken).toList ++ [⟨.die, die⟩, intToken sides, ⟨.times, times⟩], intToken m,
      by simp [tokens, multiplierTokens], id⟩

/-- **A formula does not break off.** -/
theorem Whole.not_pending (h : Whole tokens) : ¬ Pending tokens := by
  obtain ⟨⟨first, more⟩, -, rfl⟩ := h
  -- the last tokens are those of a term
  obtain ⟨before, t, hlast⟩ : ∃ before, ∃ t : TermTree,
      (Tree.mk first more).tokens = before ++ t.tokens := by
    rcases List.eq_nil_or_concat more with rfl | ⟨more, ⟨s, t⟩, rfl⟩
    · exact ⟨[], first, by simp [Tree.tokens, Tree.moreTokens]⟩
    · refine ⟨first.tokens ++ (Tree.moreTokens more ++ [signToken s]), t, ?_⟩
      simp [Tree.tokens, Tree.moreTokens]
  obtain ⟨init, last, htokens, hmark⟩ := t.tokens_last
  intro hpending
  refine hmark (hpending last ?_)
  rw [hlast, htokens]
  simp

/-- A term is a formula. -/
theorem TermTree.Legal.whole {t : TermTree} (h : t.Legal) : Whole t.tokens :=
  ⟨⟨t, []⟩, ⟨h, List.forall_mem_nil _⟩, by simp [Tree.tokens, Tree.moreTokens]⟩

/-- A formula behind a term and an operator. -/
theorem Whole.behind {t : TermTree} (hlegal : t.Legal) (s : Spanned Sign) (h : Whole tokens) :
    Whole (t.tokens ++ signToken s :: tokens) := by
  obtain ⟨tree, ⟨hfirst, hmore⟩, rfl⟩ := h
  exact ⟨⟨t, (s, tree.first) :: tree.more⟩, ⟨hlegal, List.forall_mem_cons.2 ⟨hfirst, hmore⟩⟩, rfl⟩

/-- A formula goes on with an operator and a number. -/
theorem Whole.sign (h : Whole tokens) (s : Spanned Sign) (n : Spanned UInt32) :
    Whole (tokens ++ [signToken s, intToken n]) := by
  obtain ⟨tree, ⟨hfirst, hmore⟩, rfl⟩ := h
  refine ⟨⟨tree.first, tree.more ++ [(s, .flat n)]⟩, ⟨hfirst, ?_⟩, ?_⟩
  · exact List.forall_mem_append.2 ⟨hmore, List.forall_mem_singleton.2 (.flat n)⟩
  · simp [Tree.tokens, Tree.moreTokens, TermTree.tokens]

/-- What breaks off does so behind an operator, too. -/
theorem Pending.behind (before : List (Spanned Token)) (s : Spanned Sign) (h : Pending tokens) :
    Pending (before ++ signToken s :: tokens) := by
  intro t ht
  rcases List.eq_nil_or_concat tokens with rfl | ⟨init, last, rfl⟩
  · obtain rfl : signToken s = t := by simpa using ht
    exact isMark_signToken s
  · rw [List.concat_eq_append, ← List.cons_append, ← List.append_assoc, List.getLast?_concat] at ht
    exact h t (by rw [List.concat_eq_append, List.getLast?_concat]; exact ht)

/-! ## Refusals -/

/-- **What could have made the last term longer does so.** It is a `d`, which makes a number a count, or
a multiplication sign, which goes on with any multiplier. -/
structure TermReading.Extends (r : TermReading) (read : List (Spanned Token)) : Prop where
  longer : ∀ t ∈ r.longer, t = .die ∨ t = .times
  times : .times ∈ r.longer → ∀ (span : Span) (m : Spanned UInt32), 0 < m.value →
    Whole (read ++ [⟨.times, span⟩, intToken m])

/-- The last term goes on in the same way behind a term and an operator. -/
theorem TermReading.Extends.behind {r : TermReading} (h : r.Extends read) {t : TermTree}
    (hlegal : t.Legal) (s : Spanned Sign) : r.Extends (t.tokens ++ signToken s :: read) where
  longer := h.longer
  times ht span m hm := by
    have hmore := (h.times ht span m hm).behind hlegal s
    rwa [← List.cons_append, ← List.append_assoc] at hmore

/-- **What a refusal says of the tokens in front of the one it blames.** If these break off, it expects
nothing but a `d`, or blames a faulty term that starts there. Otherwise they are a formula, and it
expects what its last term could have gone on with, an operator, or the end. -/
inductive Refusal.After (read rest : List (Spanned Token)) : Refusal → Prop where
  | pending {expected : List Expectation} (breaks : Pending read)
      (die : ∀ e ∈ expected, e = .token .die) : After read rest (.unexpected rest.head? expected)
  | fault (first : Spanned Token) (cause : TermFault) (stop : Nat) (breaks : Pending read)
      (starts : first ∈ rest.head?) : After read rest (.fault cause ⟨first.span.start, stop⟩)
  | whole {r : TermReading} (whole : Whole read) (goesOn : r.Extends read) :
      After read rest (.unexpected rest.head? r.expected)

open Refusal (After)

/-- What a refusal says of some tokens, it says of them behind a term and an operator, too. -/
theorem Refusal.After.behind {t : TermTree} (hlegal : t.Legal) (s : Spanned Sign) {r : Refusal}
    (h : After read rest r) : After (t.tokens ++ signToken s :: read) rest r := by
  cases h with
  | pending breaks die => exact .pending (breaks.behind t.tokens s) die
  | fault first cause stop breaks starts =>
    exact .fault first cause stop (breaks.behind t.tokens s) starts
  | whole whole goesOn => exact .whole (whole.behind hlegal s) (goesOn.behind hlegal s)

/-! ## Terms that are refused -/

/-- **Where a term is refused.** -/
theorem readTerm_after {r : Refusal} (h : readTerm tokens = .error r) :
    ∃ read rest, tokens = read ++ rest ∧ After read rest r := by
  have hnone : Pending [] := fun t ht => by cases ht
  unfold readTerm at h
  split at h
  · split at h <;> cases h
  · cases h
  · rename_i d rest
    rcases readRoll_eq_error h with ⟨cause, stop, rfl⟩ | rfl
    · exact ⟨[], _, rfl, .fault ⟨.die, d⟩ cause stop hnone rfl⟩
    · refine ⟨[⟨.die, d⟩], rest, rfl, .pending (fun t ht => ?_) (by simp)⟩
      cases ht
      trivial
  · rename_i name s rest
    split at h
    · cases h
    · cases h
      exact ⟨[], _, rfl, .fault ⟨.symbol name, s⟩ (.unknownSymbol name) s.stop hnone rfl⟩
  · cases h
    exact ⟨[], tokens, rfl, .pending hnone (by simp)⟩

/-- **Where a longer term is refused that broke off**: behind the mark that is left over. -/
theorem missed_after {reading : TermReading} {r : Refusal} (h : readTerm tokens = .ok reading)
    (hmissed : reading.missed = some r) :
    ∃ read rest, tokens = read ++ rest ∧ After read rest r := by
  obtain ⟨tree, -, htokens, -⟩ := readTerm_sound h
  obtain ⟨t, more, hrest, ht, rfl⟩ := readTerm_missed h hmissed
  refine ⟨tree.tokens ++ [t], more, by rw [htokens, hrest, List.append_cons], .pending ?_ (by simp)⟩
  intro u hu
  obtain rfl : t = u := by simpa using hu
  rcases ht with ht | ht <;> rw [ht] <;> trivial

/-! ## Terms that could have gone on -/

theorem readMultiplier_longer {start : Nat} {roll : Roll} {r : TermReading}
    (h : readMultiplier start roll tokens = .ok r) :
    (∀ t ∈ r.longer, t = .times) ∧ (.times ∈ r.longer → tokens = r.rest) := by
  unfold readMultiplier at h
  split at h
  · split at h
    · cases h
    · cases h
      exact ⟨List.forall_mem_nil _, fun ht => by cases ht⟩
  · cases h
    exact ⟨List.forall_mem_nil _, fun ht => by cases ht⟩
  · cases h
    exact ⟨List.forall_mem_singleton.2 rfl, fun _ => rfl⟩

theorem readRoll_longer {count : Option (Spanned UInt32)} {die : Span} {r : TermReading}
    (h : readRoll count die tokens = .ok r) :
    (∀ t ∈ r.longer, t = .times) ∧ (.times ∈ r.longer → ∃ sides,
      (TermTree.roll count die sides none).Legal ∧
        (count.map intToken).toList ++ ⟨.die, die⟩ :: tokens =
          (TermTree.roll count die sides none).tokens ++ r.rest) := by
  unfold readRoll at h
  split at h
  · rename_i n s rest
    simp only at h
    split at h
    · cases h
    · rename_i hfault
      obtain ⟨h1, h2, h3, h4⟩ := headFault?_eq_none_iff.1 hfault
      obtain ⟨htimes, hrest⟩ := readMultiplier_longer h
      refine ⟨htimes, fun ht => ⟨⟨n, s⟩, .roll h1 h2 h3 h4 (by simp), ?_⟩⟩
      simp [hrest ht, TermTree.tokens, TermTree.multiplierTokens, intToken]
  · cases h

/-- **What a term could have gone on with**: a number with a `d`, and a roll without a multiplier with a
multiplication sign. -/
theorem readTerm_longer {r : TermReading} (h : readTerm tokens = .ok r) :
    (∀ t ∈ r.longer, t = .die ∨ t = .times) ∧ (.times ∈ r.longer → ∃ count die sides,
      (TermTree.roll count die sides none).Legal ∧
        tokens = (TermTree.roll count die sides none).tokens ++ r.rest) := by
  unfold readTerm at h
  split at h
  · split at h
    · rename_i reading hr
      cases h
      obtain ⟨htimes, hroll⟩ := readRoll_longer hr
      exact ⟨fun t ht => .inr (htimes t ht), fun ht => ⟨_, _, hroll ht⟩⟩
    · cases h
      exact ⟨List.forall_mem_nil _, fun ht => by cases ht⟩
  · cases h
    exact ⟨List.forall_mem_singleton.2 (.inl rfl), fun ht => by simp at ht⟩
  · obtain ⟨htimes, hroll⟩ := readRoll_longer h
    exact ⟨fun t ht => .inr (htimes t ht), fun ht => ⟨_, _, hroll ht⟩⟩
  · split at h
    · cases h
      exact ⟨List.forall_mem_nil _, fun ht => by cases ht⟩
    · cases h
  · cases h

/-- **A term that was read** goes on with what could have made it longer. -/
theorem readTerm_extends {r : TermReading} (h : readTerm tokens = .ok r) :
    ∃ t : TermTree, t.Legal ∧ tokens = t.tokens ++ r.rest ∧ r.Extends t.tokens := by
  obtain ⟨t, hlegal, htokens, -⟩ := readTerm_sound h
  obtain ⟨hlonger, hroll⟩ := readTerm_longer h
  refine ⟨t, hlegal, htokens, hlonger, fun htimes span m hm => ?_⟩
  obtain ⟨count, die, sides, hlegal, hsame⟩ := hroll htimes
  have ht : t.tokens = (TermTree.roll count die sides none).tokens :=
    List.append_cancel_right (htokens.symm.trans hsame)
  cases hlegal with
  | roll count_touches count_pos sides_touch sides_pos _ =>
    have hlong : (TermTree.roll count die sides (some (span, m))).Legal := by
      refine .roll count_touches count_pos sides_touch sides_pos fun x hx => ?_
      cases hx
      exact hm
    rw [ht]
    simpa [TermTree.tokens, TermTree.multiplierTokens] using hlong.whole

/-- **Every refusal says what it should** of the tokens in front of the one it blames. -/
theorem readTerms_after {sign : Sign} {r : Refusal} (h : readTerms sign tokens = .error r) :
    ∃ read rest, tokens = read ++ rest ∧ After read rest r := by
  fun_induction readTerms sign tokens with
  | case1 sign tokens refusal hr =>
    cases h
    exact readTerm_after hr
  | case2 sign tokens reading hr hrest => cases h
  | case3 sign tokens reading hr op more hrest next hsign ih =>
    obtain ⟨t, hlegal, htokens, -⟩ := readTerm_sound hr
    obtain ⟨read, rest, rfl, hafter⟩ := ih (map_eq_error h)
    rw [hrest, eq_signToken hsign] at htokens
    exact ⟨t.tokens ++ signToken ⟨next, op.span⟩ :: read, rest, by simp [htokens],
      hafter.behind hlegal _⟩
  | case4 sign tokens reading hr op more hrest hsign =>
    cases h
    cases hmissed : reading.missed with
    | some missed => exact missed_after hr hmissed
    | none =>
      obtain ⟨t, hlegal, htokens, hgoesOn⟩ := readTerm_extends hr
      refine ⟨t.tokens, op :: more, ?_, .whole hlegal.whole hgoesOn⟩
      rw [htokens, hrest]

/-! ## Errors -/

/-- **Expectations that hold of a text**: it is a formula exactly if its end is expected, goes on with
`+` and `-` if one of them is, and with a multiplier if `×` is. -/
structure Truthful (text : String) (expected : List String) : Prop where
  ending : "end of input" ∈ expected ↔ ∃ f, parse text = .ok f
  sign : "'+'" ∈ expected ∨ "'-'" ∈ expected →
    (∃ f, parse (text ++ "+1") = .ok f) ∧ ∃ f, parse (text ++ "-1") = .ok f
  times : "'×'" ∈ expected → ∃ f, parse (text ++ "×1") = .ok f

/-- A text that goes on with an operator, or with a multiplication sign, and a `1`. -/
theorem exists_parse_one {c : Char} {more : String} {text : List Char}
    (hmore : more.toList = [c, '1']) (hspacing : isSpacing c = false)
    (hpart : Token.isSymbolPart c = false)
    (h : ∀ s s' : Span, Whole (Token.scan text ++ [⟨Token.ofPiece [c], s⟩, intToken ⟨1, s'⟩])) :
    ∃ f, parse (String.ofList text ++ more) = .ok f := by
  have hone := scan_digits (byteLength text + byteLength [c]) 1 Token.ends_nil
  rw [Token.scanFrom_nil] at hone
  have hscan : Token.scan (text ++ [c, '1']) = Token.scan text ++
      [⟨Token.ofPiece [c], .ofPiece (byteLength text) [c]⟩,
        intToken ⟨1, .ofPiece (byteLength text + byteLength [c]) (digits 1)⟩] := by
    rw [Token.scan_append_single hspacing hpart]
    exact congrArg (fun ts => Token.scan text ++ _ :: ts) hone
  rw [parse, String.toList_append, String.toList_ofList, hmore, exists_parseChars_iff, hscan]
  exact h _ _

/-- Where a text breaks off, nothing but a `d` is expected. -/
theorem truthful_of_pending {text : List Char} (h : Pending (Token.scan text))
    {expected : List String} (hdie : ∀ e ∈ expected, e = "'d'") :
    Truthful (String.ofList text) expected where
  ending := by
    rw [parse, String.toList_ofList, exists_parseChars_iff]
    exact ⟨fun hend => absurd (hdie _ hend) (by decide), fun hwhole => absurd h hwhole.not_pending⟩
  sign hsign := by
    rcases hsign with hsign | hsign <;> exact absurd (hdie _ hsign) (by decide)
  times htimes := absurd (hdie _ htimes) (by decide)

/-- What is expected behind a formula. -/
theorem truthful_of_whole {text : List Char} {r : TermReading} (h : Whole (Token.scan text))
    (hgoesOn : r.Extends (Token.scan text)) :
    Truthful (String.ofList text) (r.expected.map Expectation.describe) where
  ending := by
    rw [parse, String.toList_ofList, exists_parseChars_iff]
    exact ⟨fun _ => h, fun _ => by simp [TermReading.expected, Expectation.describe]⟩
  sign _ :=
    ⟨exists_parse_one (c := '+') rfl rfl rfl fun s s' => h.sign ⟨.plus, s⟩ ⟨1, s'⟩,
      exists_parse_one (c := '-') rfl rfl rfl fun s s' => h.sign ⟨.minus, s⟩ ⟨1, s'⟩⟩
  times hexpected := by
    -- of what can be expected only the sign itself is described as one
    have hmem : Token.times ∈ r.longer := by
      obtain ⟨e, he, hdescribe⟩ := List.mem_map.1 hexpected
      simp only [TermReading.expected, List.mem_append, List.mem_map, List.mem_cons,
        List.not_mem_nil, or_false] at he
      rcases he with ⟨t, ht | rfl | rfl, rfl⟩ | rfl
      · rcases hgoesOn.longer t ht with rfl | rfl
        · exact absurd hdescribe (by decide)
        · exact ht
      · exact absurd hdescribe (by decide)
      · exact absurd hdescribe (by decide)
      · exact absurd hdescribe (by decide)
    exact exists_parse_one (c := '×') rfl rfl rfl fun s s' =>
      hgoesOn.times hmem s ⟨1, s'⟩ (show (0 : UInt32) < 1 by decide)

/-- **What an error expects is true of the text before its span**: the text is a formula exactly if the
end of the input is expected there, it goes on with `+1` and `-1` if an operator is, and with `×1` if a
multiplication sign is. An input that ends too early is blamed on its last word instead. -/
theorem parse_expected (text : String) (e : ParseError) (h : parse text = .error e) :
    ∃ span found reason expected, e = .formula span found reason expected ∧
      (reason ≠ "unexpected end of input" →
        Truthful (String.ofList (takeBytes span.start text.toList)) expected) := by
  rw [parse, parseChars] at h
  split at h
  · cases h
  rename_i r hr
  cases h
  have hblames := readTerms_blames hr
  obtain ⟨read, rest, htokens, hafter⟩ := readTerms_after hr
  -- the tokens of the text before a token are those before it
  have hbefore {t : Spanned Token} (ht : t ∈ rest.head?) :
      Token.scan (takeBytes t.span.start text.toList) = read := by
    obtain ⟨more, rfl⟩ := List.head?_eq_some_iff.1 ht
    obtain ⟨a, b, htext, ha, hparts⟩ := Token.parts_before htokens
    rw [htext, ← ha, takeBytes_append]
    exact hparts.scan.1
  cases hafter with
  | fault first cause stop breaks starts =>
    refine ⟨_, _, _, _, rfl, fun _ => ?_⟩
    rw [widen_of_blames hblames (by simp)]
    rw [← hbefore starts] at breaks
    exact truthful_of_pending breaks (List.forall_mem_nil _)
  | pending breaks die =>
    cases hhead : rest.head? with
    | none => exact ⟨_, _, _, _, rfl, fun hreason => absurd rfl hreason⟩
    | some t =>
      rw [hhead] at hblames
      refine ⟨_, _, _, _, rfl, fun _ => ?_⟩
      rw [widen_of_blames hblames (by simp)]
      rw [← hbefore hhead] at breaks
      refine truthful_of_pending breaks fun e he => ?_
      obtain ⟨x, hx, rfl⟩ := List.mem_map.1 he
      rw [die x hx]
      rfl
  | whole whole goesOn =>
    cases hhead : rest.head? with
    | none => exact ⟨_, _, _, _, rfl, fun hreason => absurd rfl hreason⟩
    | some t =>
      rw [hhead] at hblames
      refine ⟨_, _, _, _, rfl, fun _ => ?_⟩
      rw [widen_of_blames hblames (by simp)]
      rw [← hbefore hhead] at whole goesOn
      exact truthful_of_whole whole goesOn

/-- The end of the input is expected behind `1d6`, and before the `d` of `1 d 6`. A multiplication sign
is expected only behind the first of them. -/
theorem parse_expected_split :
    parse "1d6 ?" = .error (.formula ⟨4, 5⟩ "?" "unexpected '?'"
      ["'×'", "'+'", "'-'", "end of input"]) ∧
    Truthful "1d6 " ["'×'", "'+'", "'-'", "end of input"] ∧
    parse "1 d 6" = .error (.formula ⟨2, 3⟩ "d" "unexpected 'd'" ["'+'", "'-'", "end of input"]) ∧
    Truthful "1 " ["'+'", "'-'", "end of input"] := by
  have hroll : parse "1d6 ?" = .error (.formula ⟨4, 5⟩ "?" "unexpected '?'"
    ["'×'", "'+'", "'-'", "end of input"]) := by decide +kernel
  have hsplit : parse "1 d 6" = .error (.formula ⟨2, 3⟩ "d" "unexpected 'd'"
    ["'+'", "'-'", "end of input"]) := by decide +kernel
  refine ⟨hroll, ?_, hsplit, ?_⟩
  · obtain ⟨_, _, _, _, he, htruthful⟩ := parse_expected _ _ hroll
    cases he
    exact htruthful (by decide)
  · obtain ⟨_, _, _, _, he, htruthful⟩ := parse_expected _ _ hsplit
    cases he
    exact htruthful (by decide)

end Rulebook.Formula
