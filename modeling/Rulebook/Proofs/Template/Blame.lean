import Rulebook.Proofs.Formula.Blame
import Rulebook.Proofs.Template.Directive
import Rulebook.Proofs.Template.Segments
import Rulebook.Template.Basic

/-!
# What is blamed for a text that is no template

* `Quotes.shift`, `quotes_in_body`: an error that quotes a part of a text quotes the whole text.
* `InFormula`: the error of the formula in a body.
* `ofBody_eq_error`: the error of a directive quotes the text, and that of a formula lies in the
  body.
* `RejectedAt`: a directive is rejected where it stands. `readNodes_eq_error_iff`,
  `parse_eq_error_iff`: a text is refused when it is cut, or at the first directive that is rejected.
* `errors_quote`: **every error of a formula or a template points at what it quotes.**
-/

namespace Rulebook

namespace ParseError

/-- Whether an error is that of a formula. -/
def IsFormula : ParseError → Prop
  | formula .. => True
  | _ => False

@[simp] theorem span_shift (n : Nat) (e : ParseError) : (e.shift n).span = e.span.shift n := by
  cases e <;> rfl

@[simp] theorem found_shift (n : Nat) (e : ParseError) : (e.shift n).found = e.found := by
  cases e <;> rfl

/-- **An error in a part of a text**, seen from the whole text. -/
theorem Quotes.shift {e : ParseError} {text : List Char} (h : e.Quotes text)
    (before after : List Char) :
    (e.shift (byteLength before)).Quotes (before ++ text ++ after) := by
  obtain ⟨hwithin, hslice⟩ := h.within.shift before after
  refine ⟨?_, ?_⟩
  · rw [span_shift]
    exact hwithin
  · rw [span_shift, found_shift, hslice, h.found]

end ParseError

namespace Template

theorem quotes_toParseError (fault : DirectiveFault) (before piece after : List Char) :
    (fault.toParseError (byteLength before) piece).Quotes (before ++ piece ++ after) :=
  ⟨Span.ofPiece_within _ _ _, congrArg String.ofList (Span.slice_append _ _ _).symm⟩

/-- A part of a body, seen from the whole text. -/
theorem text_around_part (left before part after right : List Char) :
    left ++ (Segment.directive (before ++ part ++ after)).text ++ right =
      (left ++ '%' :: '{' :: before) ++ part ++ (after ++ '}' :: right) := by
  simp [Segment.text]

theorem byteLength_before_part (left before : List Char) :
    byteLength (left ++ '%' :: '{' :: before) = byteLength left + 2 + byteLength before := by
  rw [byteLength_append]
  show byteLength left + (1 + (1 + byteLength before)) = _
  omega

/-- A fault in a part of a body quotes the whole text. -/
theorem quotes_in_body (fault : DirectiveFault) {left body right part : List Char}
    (before after : List Char) {pos : Nat} (hbody : before ++ part ++ after = body)
    (hpos : pos = byteLength left + 2 + byteLength before) :
    (fault.toParseError pos part).Quotes (left ++ (Segment.directive body).text ++ right) := by
  rw [← hbody, text_around_part, hpos, ← byteLength_before_part]
  exact quotes_toParseError _ _ _ _

/-- An error in a part of a body quotes the whole text. -/
theorem shift_in_body {e : ParseError} {left body right part : List Char}
    (before after : List Char) {pos : Nat} (h : e.Quotes part)
    (hbody : before ++ part ++ after = body)
    (hpos : pos = byteLength left + 2 + byteLength before) :
    (e.shift pos).Quotes (left ++ (Segment.directive body).text ++ right) := by
  rw [← hbody, text_around_part, hpos, ← byteLength_before_part]
  exact h.shift _ _

/-- **The error of the formula in a directive body** that starts at a position: it is the error that
the formula has on its own, and its span lies in the body. -/
structure InFormula (e : ParseError) (start : Nat) (body : List Char) : Prop where
  start_le : start ≤ e.span.start
  stop_le : e.span.stop ≤ start + byteLength body
  alone : ∃ before args e', firstWord? body = some (before, "dice".toList, args) ∧
    Formula.parseChars args = .error e' ∧
    e = e'.shift (start + byteLength before + byteLength "dice".toList)

/-- What is blamed in a reference is the whole directive, or the name of its collection. -/
theorem readRef_eq_error {start pos : Nat} {raw args : List Char} {e : ParseError}
    (h : readRef start raw pos args = .error e) :
    ∃ fault, e = DirectiveFault.toParseError fault start raw ∨
      ∃ before word after, firstWord? args = some (before, word, after) ∧
        e = fault.toParseError (pos + byteLength before) word := by
  rcases readRef_cases start raw pos args with ⟨-, he⟩ | ⟨before, word, after, hword,
    ⟨cause, -, he⟩ | ⟨c, -, ⟨fault, -, he⟩ | ⟨id, display, -, hok⟩⟩⟩
  · rw [he] at h
    cases h
    exact ⟨_, .inl rfl⟩
  · rw [he] at h
    cases h
    exact ⟨_, .inr ⟨before, word, after, hword, rfl⟩⟩
  · rw [he] at h
    cases h
    exact ⟨_, .inl rfl⟩
  · rw [hok] at h
    cases h

/-- **What is blamed in a directive** stands in the text, and the error of a formula lies in the
body. -/
theorem ofBody_eq_error {left body : List Char} {e : ParseError}
    (h : Node.ofBody (byteLength left) body = .error e) (right : List Char) :
    e.Quotes (left ++ (Segment.directive body).text ++ right) ∧
      (e.IsFormula → InFormula e (byteLength left + 2) body) := by
  rcases ofBody_cases (byteLength left) body with ⟨-, he⟩ | ⟨before, word, args, hword, hcases⟩
  · rw [he] at h
    cases h
    exact ⟨quotes_toParseError _ _ _ _, False.elim⟩
  have hbody := append_of_firstWord? hword
  rcases hcases with ⟨rfl, hdice⟩ | ⟨-, href⟩ | ⟨-, -, hunknown⟩
  · rw [hdice] at h
    rcases readDice_cases (byteLength left + 2 + byteLength before + byteLength "dice".toList) args
      with ⟨formula, -, hok⟩ | ⟨e', he', herror⟩
    · rw [hok] at h
      cases h
    · rw [herror] at h
      cases h
      obtain ⟨r, hblames, rfl⟩ := Formula.parseChars_eq_error he'
      have hquotes := Formula.toParseError_quotes hblames
      have hstop := hquotes.within.stop_le
      have hlength : byteLength body =
          byteLength before + (byteLength "dice".toList + byteLength args) := by
        rw [← hbody, byteLength_append, byteLength_append]
      refine ⟨?_, fun _ => ⟨?_, ?_, ⟨before, args, _, hword, he', rfl⟩⟩⟩
      · refine shift_in_body (before ++ "dice".toList) [] hquotes ?_ ?_
        · rw [List.append_nil, List.append_assoc, hbody]
        · rw [byteLength_append, Nat.add_assoc]
      · rw [ParseError.span_shift, Span.shift]
        simp only
        omega
      · rw [hlength, ParseError.span_shift, Span.shift]
        simp only
        omega
  · rw [href] at h
    obtain ⟨fault, rfl | ⟨before', name, after, hname, rfl⟩⟩ := readRef_eq_error (map_eq_error h)
    · exact ⟨quotes_toParseError _ _ _ _, False.elim⟩
    · refine ⟨quotes_in_body fault (before ++ word ++ before') after ?_ ?_, False.elim⟩
      · rw [← hbody, ← append_of_firstWord? hname]
        simp
      · rw [byteLength_append, byteLength_append]
        omega
  · rw [hunknown] at h
    cases h
    exact ⟨quotes_in_body _ before args (by rw [List.append_assoc, hbody]) rfl, False.elim⟩

/-- **The directive at an index is rejected** where it stands, in segments from a position on. -/
def RejectedAt (pos : Nat) (segments : List Segment) (n : Nat) (e : ParseError) : Prop :=
  ∃ body, segments[n]? = some (.directive body) ∧
    Node.ofBody (pos + byteLength ((segments.take n).flatMap Segment.text)) body = .error e

theorem rejectedAt_first {pos : Nat} {s : Segment} {segments : List Segment} {e : ParseError} :
    RejectedAt pos (s :: segments) 0 e ↔ Node.ofSegment pos s = .error e := by
  cases s with
  | literal run =>
    refine ⟨?_, nofun⟩
    rintro ⟨body, hbody, -⟩
    cases hbody
  | directive body => simp [RejectedAt, Node.ofSegment]

theorem rejectedAt_behind (pos : Nat) (s : Segment) (segments : List Segment) :
    (fun n => RejectedAt pos (s :: segments) (n + 1)) =
      RejectedAt (pos + byteLength s.text) segments := by
  funext n e
  simp [RejectedAt, Nat.add_assoc]

/-- **Segments are refused at the first directive that is rejected.** -/
theorem readNodes_eq_error_iff {pos : Nat} {segments : List Segment} {e : ParseError} :
    readNodes pos segments = .error e ↔ FirstError (RejectedAt pos segments) e := by
  induction segments generalizing pos with
  | nil =>
    refine ⟨nofun, ?_⟩
    rintro ⟨n, ⟨body, hbody, -⟩, -⟩
    cases hbody
  | cons s segments ih =>
    rw [readNodes, bind_eq_error_iff, firstError_iff, rejectedAt_behind]
    simp only [rejectedAt_first]
    refine or_congr Iff.rfl ?_
    cases Node.ofSegment pos s with
    | error e' =>
      constructor
      · rintro ⟨node, hnode, -⟩
        cases hnode
      · rintro ⟨hnone, -⟩
        exact absurd rfl (hnone e')
    | ok node =>
      rw [← ih]
      constructor
      · rintro ⟨node', -, h⟩
        rcases bind_eq_error h with h | ⟨more, -, h⟩
        · exact ⟨nofun, h⟩
        · cases h
      · rintro ⟨-, h⟩
        exact ⟨node, rfl, bind_eq_error_iff.2 (.inl h)⟩

/-- The segments around the one at an index. -/
theorem take_append_drop {segments : List Segment} {n : Nat} {s : Segment}
    (h : segments[n]? = some s) : segments.take n ++ s :: segments.drop (n + 1) = segments := by
  obtain ⟨hn, hget⟩ := List.getElem?_eq_some_iff.1 h
  rw [← hget, List.getElem_cons_drop, List.take_append_drop]

/-- The directive that is refused is one of the segments. -/
theorem readNodes_eq_error {pos : Nat} {segments : List Segment} {e : ParseError}
    (h : readNodes pos segments = .error e) :
    ∃ before body after, segments = before ++ .directive body :: after ∧
      Node.ofBody (pos + byteLength (before.flatMap Segment.text)) body = .error e := by
  obtain ⟨n, ⟨body, hbody, he⟩, -⟩ := readNodes_eq_error_iff.1 h
  exact ⟨segments.take n, body, segments.drop (n + 1), (take_append_drop hbody).symm, he⟩

/-- A text is refused when it is cut into segments, or at one of them. -/
theorem parse_eq_error_iff {raw : String} {e : ParseError} :
    Template.parse raw = .error e ↔ Segment.scan (normalize raw).toList = .error e ∨
      ∃ segments, Segment.scan (normalize raw).toList = .ok segments ∧
        readNodes 0 segments = .error e := by
  rw [normalize, String.toList_ofList, ← bind_eq_error_iff]
  show Template.parse raw = .error e ↔ nodesOf (normalizeChars raw.toList) = .error e
  rw [Template.parse, bind_eq_error_iff]
  refine ⟨?_, .inl⟩
  rintro (h | ⟨nodes, -, h⟩)
  · exact h
  · cases h

/-- **What is blamed for a text that is no template** stands in its normal form, and the error of a
formula lies in the body of a directive. -/
theorem parse_quotes {raw : String} {e : ParseError} (h : Template.parse raw = .error e) :
    e.Quotes (normalize raw).toList ∧ (e.IsFormula → ∃ before body after,
      Segment.scan (normalize raw).toList = .ok (before ++ .directive body :: after) ∧
        InFormula e (byteLength (before.flatMap Segment.text) + 2) body) := by
  rcases parse_eq_error_iff.1 h with h | ⟨segments, hsegments, h⟩
  · obtain ⟨before, inside, ⟨⟨htext, -⟩, -⟩, rfl⟩ := Segment.scanFrom_eq_error_iff.1 h
    refine ⟨?_, False.elim⟩
    have hslice := Span.slice_append before ('%' :: '{' :: inside) []
    have hwithin := Span.ofPiece_within before ('%' :: '{' :: inside) []
    rw [List.append_nil, ← htext] at hslice hwithin
    rw [Nat.zero_add]
    exact ⟨hwithin, congrArg String.ofList hslice.symm⟩
  · obtain ⟨before, body, after, rfl, he⟩ := readNodes_eq_error h
    rw [Nat.zero_add] at he
    obtain ⟨hquotes, hformula⟩ := ofBody_eq_error he (after.flatMap Segment.text)
    refine ⟨?_, fun hf => ⟨before, body, after, hsegments, hformula hf⟩⟩
    have hjoin := (Segment.scanFrom_sound hsegments).1
    rw [List.flatMap_append, List.flatMap_cons, ← List.append_assoc] at hjoin
    rwa [hjoin] at hquotes

/-- **Every error points at what it quotes.** Its span lies between two boundaries of the text, and
its quote is the text between them.

The error of a formula quotes something, unless the text is spacing only, and one that reports an
early end stops where the last token stops. The error of a formula in a template lies in the body of
a directive, and is the one of the formula alone. -/
theorem errors_quote :
    (∀ (text : String) (e : ParseError), Formula.parse text = .error e →
      e.Quotes text.toList ∧ e.span.stop ≤ byteLength text.toList ∧
      ((∃ c ∈ text.toList, Token.isSpacing c = false) → e.found ≠ "" ∧
        ∀ span found expected, e = .formula span found "unexpected end of input" expected →
          ∃ last, (Token.scan text.toList).getLast? = some last ∧
            span.stop = last.span.stop)) ∧
    ∀ (raw : String) (e : ParseError), Template.parse raw = .error e →
      e.Quotes (normalize raw).toList ∧ e.span.stop ≤ byteLength (normalize raw).toList ∧
      (e.IsFormula → ∃ before body after,
        Segment.scan (normalize raw).toList = .ok (before ++ .directive body :: after) ∧
          InFormula e (byteLength (before.flatMap Segment.text) + 2) body) := by
  constructor
  · intro text e h
    obtain ⟨r, hblames, rfl⟩ := Formula.parseChars_eq_error h
    have hquotes := Formula.toParseError_quotes hblames
    refine ⟨hquotes, hquotes.within.stop_le, ?_⟩
    rintro ⟨c, hc, hspacing⟩
    have htokens : Token.scan text.toList ≠ [] := by
      intro hnil
      have hall := Token.scanFrom_eq_nil_iff.1 hnil c hc
      rw [hspacing] at hall
      cases hall
    constructor
    · rw [hquotes.found]
      intro hempty
      have hlt := Formula.toParseError_nonempty hblames htokens
      have hnil := congrArg String.toList hempty
      rw [String.toList_ofList] at hnil
      exact hquotes.within.slice_ne_nil hlt hnil
    · intro span found expected he
      obtain ⟨es, rfl⟩ := Formula.eq_unexpected_none he
      cases hblames with
      | ending _ known =>
        have hlast := List.getLast?_eq_some_getLast htokens
        have hstop := Formula.toParseError_ending es known hlast
        rw [he] at hstop
        exact ⟨_, hlast, hstop⟩
  · intro raw e h
    obtain ⟨hquotes, hformula⟩ := parse_quotes h
    exact ⟨hquotes, hquotes.within.stop_le, hformula⟩

/-- An operator that nothing follows is the last token of its text, and a roll without sides behind
a character of two bytes lies in the body of its directive. -/
theorem errors_quote_dangling :
    Formula.parse "1d6 - " = .error (.formula ⟨4, 5⟩ "-" "unexpected end of input" ["'d'"]) ∧
    (∃ c ∈ "1d6 - ".toList, Token.isSpacing c = false) ∧
    (∃ last, (Token.scan "1d6 - ".toList).getLast? = some last ∧ 5 = last.span.stop) ∧
    Template.parse "×%\x7bdice 2d\x7d" =
      .error (.formula ⟨9, 11⟩ "2d" "unexpected end of input" []) ∧
    (ParseError.formula ⟨9, 11⟩ "2d" "unexpected end of input" []).Quotes
      (normalize "×%\x7bdice 2d\x7d").toList ∧
    ∃ before body after,
      Segment.scan (normalize "×%\x7bdice 2d\x7d").toList =
          .ok (before ++ .directive body :: after) ∧
        InFormula (.formula ⟨9, 11⟩ "2d" "unexpected end of input" [])
          (byteLength (before.flatMap Segment.text) + 2) body := by
  have hsum : Formula.parse "1d6 - " =
      .error (.formula ⟨4, 5⟩ "-" "unexpected end of input" ["'d'"]) := by decide +kernel
  have hroll : Template.parse "×%\x7bdice 2d\x7d" =
      .error (.formula ⟨9, 11⟩ "2d" "unexpected end of input" []) := by decide +kernel
  have hspacing : ∃ c ∈ "1d6 - ".toList, Token.isSpacing c = false := ⟨'1', by decide, by decide⟩
  obtain ⟨-, -, hending⟩ := errors_quote.1 _ _ hsum
  obtain ⟨hquotes, -, hformula⟩ := errors_quote.2 _ _ hroll
  exact ⟨hsum, hspacing, (hending hspacing).2 _ _ _ rfl, hroll, hquotes, hformula trivial⟩

end Template

end Rulebook
