import Rulebook.Proofs.Formula.Dangling
import Rulebook.Proofs.Formula.Grammar
import Rulebook.Proofs.Outcome
import Rulebook.Proofs.Text.Joined

/-!
# What is blamed for a text that is no formula

* `ParseError.Quotes`: an error whose span lies in a text and whose quote stands there.
* `Refusal.Blames`: the tokens that a refusal is about. `readTerms_blames`: the reader blames tokens
  that it was given, and only reports an early end if it knows all of them.
* `widen_blames`: the span of the error is that of a piece of the text. An early end is widened to one
  because all tokens are known then.
* `toParseError_quotes`, `toParseError_nonempty`, `toParseError_ending`: **the error quotes what
  stands at its span**, which is not empty and ends with the last token if the text ends too early.
-/

namespace Rulebook

/-- **An error that points at what it quotes**: its span lies in the text, and its quote is what
stands there. -/
structure ParseError.Quotes (e : ParseError) (source : List Char) : Prop where
  within : e.span.Within source
  found : e.found = String.ofList (e.span.slice source)

namespace Formula

open Token (Known Located)

/-! ## Known tokens -/

theorem known_multiplierTokens (m : Option (Span × Spanned UInt32)) :
    ∀ t ∈ TermTree.multiplierTokens m, t.value.Known := by
  rcases m with _ | m
  · exact List.forall_mem_nil _
  · exact List.forall_mem_cons.2 ⟨trivial, List.forall_mem_singleton.2 trivial⟩

theorem known_count (count : Option (Spanned UInt32)) :
    ∀ t ∈ (count.map intToken).toList, t.value.Known := by
  rcases count with _ | c
  · exact List.forall_mem_nil _
  · exact List.forall_mem_singleton.2 trivial

theorem known_term (tree : TermTree) : ∀ t ∈ tree.tokens, t.value.Known := by
  cases tree with
  | flat n => exact List.forall_mem_singleton.2 trivial
  | symbol s span => exact List.forall_mem_singleton.2 trivial
  | roll count die sides m =>
    exact List.forall_mem_append.2 ⟨known_count count, List.forall_mem_cons.2 ⟨trivial,
      List.forall_mem_cons.2 ⟨trivial, known_multiplierTokens m⟩⟩⟩

theorem known_of_sign {t : Token} {s : Sign} (h : t.sign? = some s) : t.Known := by
  cases t with
  | unknown text => cases h
  | _ => trivial

/-! ## Blamed tokens -/

/-- **What a refusal of some tokens is about**: one of them, their end if all of them are known, or
a row of them from a first to a last one. -/
inductive Refusal.Blames (tokens : List (Spanned Token)) : Refusal → Prop where
  | token {t : Spanned Token} (expected : List Expectation) (mem : t ∈ tokens) :
      Blames tokens (.unexpected (some t) expected)
  | ending (expected : List Expectation) (known : ∀ t ∈ tokens, t.value.Known) :
      Blames tokens (.unexpected none expected)
  | fault (cause : TermFault) (first last : Spanned Token) {behind : List (Spanned Token)}
      (suffix : first :: behind <:+ tokens) (mem : last ∈ first :: behind) :
      Blames tokens (.fault cause ⟨first.span.start, last.span.stop⟩)

open Refusal (Blames)

/-- What is blamed in the tokens behind known ones is blamed in all of them. -/
theorem Refusal.Blames.behind {before tokens : List (Spanned Token)} {r : Refusal}
    (h : Blames tokens r) (hbefore : ∀ t ∈ before, t.value.Known) :
    Blames (before ++ tokens) r := by
  cases h with
  | token expected mem => exact .token expected (List.mem_append_right _ mem)
  | ending expected known => exact .ending expected (List.forall_mem_append.2 ⟨hbefore, known⟩)
  | fault cause first last suffix mem =>
    exact .fault cause first last (suffix.trans (List.suffix_append _ _)) mem

/-- The next token is blamed, or the end if there is none. -/
theorem blames_head {before : List (Spanned Token)} (tokens : List (Spanned Token))
    (expected : List Expectation) (hbefore : ∀ t ∈ before, t.value.Known) :
    Blames (before ++ tokens) (.unexpected tokens.head? expected) := by
  rcases tokens with _ | ⟨t, more⟩
  · rw [List.append_nil]
    exact .ending expected hbefore
  · exact .token expected (by simp)

theorem readMultiplier_blames {roll : Roll} {first : Spanned Token} (read : List (Spanned Token))
    {tokens : List (Spanned Token)} {r : Refusal}
    (h : readMultiplier first.span.start roll tokens = .error r) :
    Blames (first :: read ++ tokens) r := by
  unfold readMultiplier at h
  split at h
  · rename_i times m s rest
    split at h
    · cases h
      exact .fault _ first ⟨.int m, s⟩ (List.suffix_refl _) (by simp)
    · cases h
  · cases h
  · cases h

theorem readRoll_blames {count : Option (Spanned UInt32)} {die : Span}
    {tokens : List (Spanned Token)} {r : Refusal} (h : readRoll count die tokens = .error r) :
    Blames ((count.map intToken).toList ++ ⟨.die, die⟩ :: tokens) r := by
  -- a roll starts at its count, or at its `d` if it has none
  obtain ⟨first, read, hfirst, hstart⟩ : ∃ first read,
      (count.map intToken).toList ++ [⟨.die, die⟩] = first :: read ∧
        first.span.start = (count.map (·.span.start)).getD die.start := by
    cases count with
    | none => exact ⟨⟨.die, die⟩, [], rfl, rfl⟩
    | some c => exact ⟨intToken c, [⟨.die, die⟩], rfl, rfl⟩
  have hdie : ∀ t ∈ [(⟨.die, die⟩ : Spanned Token)], t.value.Known :=
    List.forall_mem_singleton.2 trivial
  have hread : ∀ t ∈ first :: read, t.value.Known := by
    rw [← hfirst]
    exact List.forall_mem_append.2 ⟨known_count count, hdie⟩
  rw [List.append_cons, hfirst]
  unfold readRoll at h
  rw [← hstart] at h
  split at h
  · rename_i n s rest
    simp only at h
    split at h
    · cases h
      exact .fault _ first ⟨.int n, s⟩ (List.suffix_refl _) (by simp)
    · have hblames := readMultiplier_blames (read ++ [⟨.int n, s⟩]) h
      rwa [← List.cons_append, List.append_assoc] at hblames
  · cases h
    exact blames_head tokens [] hread

/-- **The tokens that a term cannot start with** are among those that were given. -/
theorem readTerm_blames {tokens : List (Spanned Token)} {r : Refusal}
    (h : readTerm tokens = .error r) : Blames tokens r := by
  unfold readTerm at h
  split at h
  · split at h <;> cases h
  · cases h
  · exact readRoll_blames h
  · rename_i name s rest
    split at h
    · cases h
    · cases h
      exact .fault (.unknownSymbol name) ⟨.symbol name, s⟩ ⟨.symbol name, s⟩ (List.suffix_refl _)
        List.mem_cons_self
  · cases h
    exact blames_head tokens _ (List.forall_mem_nil _)

/-- A longer term that broke off is blamed behind what the term that was read leaves over. -/
theorem missed_blames {tokens : List (Spanned Token)} {reading : TermReading} {r : Refusal}
    (h : readTerm tokens = .ok reading) (hmissed : reading.missed = some r) : Blames tokens r := by
  obtain ⟨tree, -, htokens, -⟩ := readTerm_sound h
  obtain ⟨t, more, hrest, ht, rfl⟩ := readTerm_missed h hmissed
  have hknown : t.value.Known := by
    rcases ht with ht | ht <;> rw [ht] <;> trivial
  have hbefore : ∀ u ∈ tree.tokens ++ [t], u.value.Known :=
    List.forall_mem_append.2 ⟨known_term tree, List.forall_mem_singleton.2 hknown⟩
  rw [htokens, hrest, List.append_cons]
  exact blames_head more [] hbefore

/-- **A refusal blames tokens that were given.** -/
theorem readTerms_blames {sign : Sign} {tokens : List (Spanned Token)} {r : Refusal}
    (h : readTerms sign tokens = .error r) : Blames tokens r := by
  fun_induction readTerms sign tokens with
  | case1 sign tokens refusal hr =>
    cases h
    exact readTerm_blames hr
  | case2 sign tokens reading hr hrest => cases h
  | case3 sign tokens reading hr op more hrest next hsign ih =>
    obtain ⟨tree, -, htokens, -⟩ := readTerm_sound hr
    have hbefore : ∀ t ∈ tree.tokens ++ [op], t.value.Known :=
      List.forall_mem_append.2
        ⟨known_term tree, List.forall_mem_singleton.2 (known_of_sign hsign)⟩
    have hblames := (ih (map_eq_error h)).behind hbefore
    rwa [← List.append_cons, ← hrest, ← htokens] at hblames
  | case4 sign tokens reading hr op more hrest hsign =>
    cases h
    cases hmissed : reading.missed with
    | some missed => exact missed_blames hr hmissed
    | none =>
      obtain ⟨tree, -, htokens, -⟩ := readTerm_sound hr
      refine .token _ ?_
      rw [htokens, hrest]
      simp

/-! ## Errors -/

/-- The first of some tokens starts before any of them stops. -/
theorem start_lt_stop {source : List Char} {tokens behind : List (Spanned Token)}
    {first last : Spanned Token} (h : Located source tokens) (hs : first :: behind <:+ tokens)
    (hm : last ∈ first :: behind) : first.span.start < last.span.stop := by
  have hfirst := h.nonempty first (hs.subset List.mem_cons_self)
  rcases List.mem_cons.1 hm with rfl | hm
  · exact hfirst
  · have hlast := h.nonempty last (hs.subset (List.mem_cons_of_mem _ hm))
    have hordered := List.rel_of_pairwise_cons (h.ordered.sublist hs.sublist) hm
    omega

/-- The span of a refusal that blames tokens stands in the text, and is not empty. -/
theorem span_of_blames {source : List Char} {r : Refusal} (h : Blames (Token.scan source) r)
    (hr : ∀ es, r ≠ .unexpected none es) :
    (r.span source).Within source ∧ (r.span source).start < (r.span source).stop := by
  have hlocated := Token.scan_located source
  cases h with
  | token expected mem => exact ⟨hlocated.within _ mem, hlocated.nonempty _ mem⟩
  | ending expected known => exact absurd rfl (hr expected)
  | fault cause first last suffix mem =>
    have hlt := start_lt_stop hlocated suffix mem
    have hfirst := hlocated.within _ (suffix.subset List.mem_cons_self)
    have hlast := hlocated.within _ (suffix.subset mem)
    exact ⟨⟨Nat.le_of_lt hlt, hfirst.start_boundary, hlast.stop_boundary⟩, hlt⟩

/-- Only the end of a text is widened. -/
theorem widen_of_blames {source : List Char} {r : Refusal} (h : Blames (Token.scan source) r)
    (hr : ∀ es, r ≠ .unexpected none es) : widen source (r.span source) = r.span source :=
  if_pos (span_of_blames h hr).2

/-- **The span of an error is that of a piece of the text**, which is not empty if the text has a token. -/
theorem widen_blames {source : List Char} {r : Refusal} (h : Blames (Token.scan source) r) :
    ∃ before piece after, source = before ++ piece ++ after ∧
      widen source (r.span source) = .ofPiece (byteLength before) piece ∧
      (Token.scan source ≠ [] → piece ≠ []) := by
  by_cases hr : ∀ es, r ≠ .unexpected none es
  · obtain ⟨hwithin, hlt⟩ := span_of_blames h hr
    obtain ⟨before, piece, after, hsource, hspan, hslice⟩ := hwithin.exists_piece
    refine ⟨before, piece, after, hsource, (widen_of_blames h hr).trans hspan, fun _ => ?_⟩
    rw [← hslice]
    exact hwithin.slice_ne_nil hlt
  · -- the end is blamed, so all tokens are known
    obtain ⟨es, rfl⟩ := not_forall_not.1 hr
    cases h with
    | ending _ known =>
      obtain ⟨before, word, after, hsource, -, hwiden, hword⟩ := widen_ending known
      refine ⟨before, word, after, hsource, hwiden, fun hne => hword ?_⟩
      exact (Token.scanFrom_last known (List.getLast?_eq_some_getLast hne)).1

/-- The error of a refusal whose span is that of a piece of the text. -/
theorem toParseError_eq {before piece after : List Char} {r : Refusal}
    (h : widen (before ++ piece ++ after) (r.span (before ++ piece ++ after)) =
      .ofPiece (byteLength before) piece) :
    r.toParseError (before ++ piece ++ after) =
      .formula (.ofPiece (byteLength before) piece) (String.ofList piece) r.message
        (r.expected.map Expectation.describe) := by
  have hget : (Span.ofPiece (byteLength before) piece).get? (before ++ piece ++ after) = some piece :=
    Span.get?_eq_some_iff.2 ⟨before, after, rfl, rfl⟩
  simp only [Refusal.toParseError, h, hget, Option.getD_some]

/-- **An error quotes what stands at its span.** -/
theorem toParseError_quotes {source : List Char} {r : Refusal}
    (h : Blames (Token.scan source) r) : (r.toParseError source).Quotes source := by
  obtain ⟨before, piece, after, rfl, hspan, -⟩ := widen_blames h
  rw [toParseError_eq hspan]
  exact ⟨Span.ofPiece_within before piece after,
    congrArg String.ofList (Span.slice_append before piece after).symm⟩

/-- **The end of a text is blamed on its last token.** The span of the error ends there. -/
theorem toParseError_ending {source : List Char} (expected : List Expectation)
    {last : Spanned Token} (hknown : ∀ t ∈ Token.scan source, t.value.Known)
    (hlast : (Token.scan source).getLast? = some last) :
    ((Refusal.unexpected none expected).toParseError source).span.stop = last.span.stop := by
  obtain ⟨-, hstop⟩ := Token.scanFrom_last hknown hlast
  obtain ⟨before, word, after, -, htrim, hwiden, -⟩ := widen_ending hknown
  have hspan : ((Refusal.unexpected none expected).toParseError source).span =
      .ofPiece (byteLength before) word := hwiden
  rw [hstop, Nat.zero_add, htrim, hspan, byteLength_append, Span.ofPiece]

/-- **A text with a token in it has something to quote.** -/
theorem toParseError_nonempty {source : List Char} {r : Refusal}
    (h : Blames (Token.scan source) r) (hne : Token.scan source ≠ []) :
    (r.toParseError source).span.start < (r.toParseError source).span.stop := by
  obtain ⟨before, piece, after, -, hwiden, hpiece⟩ := widen_blames h
  have hspan : (r.toParseError source).span = .ofPiece (byteLength before) piece := hwiden
  rw [hspan, Span.ofPiece]
  exact Nat.lt_add_of_pos_right (byteLength_pos (hpiece hne))

/-- A text is refused where its tokens are. -/
theorem parseChars_eq_error {source : List Char} {e : ParseError}
    (h : parseChars source = .error e) :
    ∃ r, Blames (Token.scan source) r ∧ e = r.toParseError source := by
  unfold parseChars at h
  split at h
  · cases h
  · rename_i r hr
    cases h
    exact ⟨r, readTerms_blames hr, rfl⟩

/-! ## The message of an early end -/

theorem describe_ne_ending (t : Token) : t.describe ≠ "end of input" := by
  intro h
  cases t with
  | int n => exact absurd (starts_of_append h) (by decide)
  | symbol name =>
    rw [Token.describe, String.append_assoc] at h
    exact absurd (starts_of_append h) (by decide)
  | unknown text =>
    rw [Token.describe, String.append_assoc] at h
    exact absurd (starts_of_append h) (by decide)
  | die => exact absurd h (by decide)
  | plus => exact absurd h (by decide)
  | minus => exact absurd h (by decide)
  | times => exact absurd h (by decide)

theorem message_ne_ending (f : TermFault) : f.message ≠ "unexpected end of input" := by
  intro h
  cases f with
  | unknownSymbol name =>
    have hpieces : "unknown symbol '" ++ (name ++ "'") = "unexpected end of input" := by
      rw [← String.append_assoc]
      exact h
    exact absurd (starts_of_append hpieces) (by decide)
  | splitCount => exact absurd h (by decide)
  | splitSides => exact absurd h (by decide)
  | zeroCount => exact absurd h (by decide)
  | zeroSides => exact absurd h (by decide)
  | zeroMultiplier => exact absurd h (by decide)

/-- **Only an early end is reported as one.** -/
theorem eq_unexpected_none {source : List Char} {r : Refusal} {span : Span} {found : String}
    {expected : List String}
    (h : r.toParseError source = .formula span found "unexpected end of input" expected) :
    ∃ es, r = .unexpected none es := by
  cases r with
  | unexpected t es =>
    cases t with
    | none => exact ⟨es, rfl⟩
    | some t =>
      obtain ⟨-, -, hreason, -⟩ := ParseError.formula.inj h
      have hwords : "unexpected " ++ t.value.describe = "unexpected " ++ "end of input" := hreason
      exact absurd ((String.append_right_inj _).1 hwords) (describe_ne_ending t.value)
  | fault cause s =>
    obtain ⟨-, -, hreason, -⟩ := ParseError.formula.inj h
    exact absurd hreason (message_ne_ending cause)

end Formula

end Rulebook
