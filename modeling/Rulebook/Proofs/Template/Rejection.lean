import Rulebook.Proofs.Template.Blame

/-!
# Which texts are no templates

A text is refused for an opening that no close follows, and only then for its directives. The first
opening is reported that dangles, else the first directive that is rejected.

* `ofBody_ne_unterminated`: no directive is rejected for want of a close.
* `ofBody_dice_eq_error_iff`: **the error of a formula in a directive** is the one it has on its own,
  moved to where its text stands.
* `parse_eq_unterminated_iff`, `parse_eq_error_of_scan`: what is reported for a text in which an
  opening dangles, and for one that is cut into segments.
* `parse_rejects`: **what is reported for a text that is no template**, and for which texts.
-/

namespace Rulebook.Template

/-! ## One directive -/

/-- What is wrong with a formula on its own is the error of a formula. -/
theorem formula_eq_error {source : List Char} {e : ParseError}
    (h : Formula.parseChars source = .error e) :
    ∃ span found reason expected, e = .formula span found reason expected := by
  obtain ⟨r, -, rfl⟩ := Formula.parseChars_eq_error h
  rcases r with ⟨_ | t, expected⟩ | ⟨cause, span⟩ <;> exact ⟨_, _, _, _, rfl⟩

/-- No directive is rejected for want of a close. -/
theorem ofBody_ne_unterminated {start : Nat} {body : List Char} {span : Span} {found : String} :
    Node.ofBody start body ≠ .error (.unterminated span found) := by
  intro h
  rcases ofBody_cases start body with ⟨-, he⟩ | ⟨before, word, args, -, ⟨-, he⟩ | ⟨-, he⟩ | ⟨-, -, he⟩⟩
  · rw [he] at h
    cases h
  · rw [he] at h
    have h := map_eq_error h
    rcases readDice_cases (start + 2 + byteLength before + byteLength word) args with
      ⟨formula, -, hok⟩ | ⟨e, herror, hshift⟩
    · rw [hok] at h
      cases h
    · obtain ⟨_, _, _, _, rfl⟩ := formula_eq_error herror
      rw [hshift] at h
      cases h
  · rw [he] at h
    obtain ⟨fault, h | ⟨_, _, _, -, h⟩⟩ := readRef_eq_error (map_eq_error h) <;> cases h
  · rw [he] at h
    cases h

/-- **The error of a formula in a directive** is the one it has on its own, with its span moved by the
bytes in front of the formula. -/
theorem ofBody_dice_eq_error_iff (before : List Char) {body blanks args : List Char}
    (h : firstWord? body = some (blanks, "dice".toList, args)) {e : ParseError} :
    Node.ofBody (byteLength before) body = .error e ↔
      ∃ span found reason expected,
        Formula.parseChars args = .error (.formula span found reason expected) ∧
        e = .formula (span.shift (byteLength (before ++ opening ++ blanks ++ "dice".toList)))
          found reason expected := by
  have hlength : byteLength before + 2 + byteLength blanks + byteLength "dice".toList =
      byteLength (before ++ opening ++ blanks ++ "dice".toList) := by
    simp only [byteLength_append]
    rfl
  rw [ofBody_dice _ h, hlength]
  rcases readDice_cases (byteLength (before ++ opening ++ blanks ++ "dice".toList)) args with
    ⟨formula, hformula, hok⟩ | ⟨e', he', hshift⟩
  · rw [hok, hformula]
    exact ⟨nofun, fun ⟨_, _, _, _, h, _⟩ => nomatch h⟩
  · obtain ⟨span, found, reason, expected, rfl⟩ := formula_eq_error he'
    rw [hshift, he']
    constructor
    · intro h
      cases h
      exact ⟨span, found, reason, expected, rfl, rfl⟩
    · rintro ⟨_, _, _, _, h, rfl⟩
      cases h
      rfl

/-! ## A whole text -/

/-- A text in which no opening dangles is cut into segments. -/
theorem exists_cutInto {text : List Char} (h : ∀ before inside, ¬ Dangles text before inside) :
    ∃ segments, Segment.scan text = .ok segments := by
  cases hscan : Segment.scan text with
  | ok segments => exact ⟨segments, rfl⟩
  | error e =>
    obtain ⟨before, inside, hfirst, -⟩ := Segment.scanFrom_eq_error_iff.1 hscan
    exact absurd hfirst.dangles (h before inside)

/-- **An opening that dangles is reported** before any directive is read. -/
theorem parse_eq_unterminated_iff {raw : String} {span : Span} {found : String} :
    Template.parse raw = .error (.unterminated span found) ↔
      ∃ before inside, FirstDangling (normalize raw).toList before inside ∧
        span = ⟨byteLength before, byteLength (normalize raw).toList⟩ ∧
        found = String.ofList (opening ++ inside) := by
  rw [parse_eq_error_iff]
  -- the error of a directive is another one, so it is the cut that failed
  have hdirectives : ∀ segments, readNodes 0 segments ≠ .error (.unterminated span found) := by
    intro segments h
    obtain ⟨_, body, _, -, hbody⟩ := readNodes_eq_error h
    exact ofBody_ne_unterminated hbody
  constructor
  · rintro (h | ⟨segments, -, h⟩)
    · obtain ⟨before, inside, hfirst, he⟩ := Segment.scanFrom_eq_error_iff.1 h
      cases he
      refine ⟨before, inside, hfirst, ?_, rfl⟩
      rw [hfirst.dangles.opened, byteLength_append, Span.ofPiece, Nat.zero_add]
    · exact absurd h (hdirectives segments)
  · rintro ⟨before, inside, hfirst, rfl, rfl⟩
    refine .inl (Segment.scanFrom_eq_error_iff.2 ⟨before, inside, hfirst, ?_⟩)
    rw [hfirst.dangles.opened, byteLength_append, Span.ofPiece, Nat.zero_add]
    rfl

/-- A text in segments is refused at the first directive that is rejected. -/
theorem parse_eq_error_of_scan {raw : String} {segments : List Segment}
    (h : Segment.scan (normalize raw).toList = .ok segments) {e : ParseError} :
    Template.parse raw = .error e ↔ FirstError (RejectedAt 0 segments) e := by
  rw [parse_eq_error_iff, h, ← readNodes_eq_error_iff]
  constructor
  · rintro (h | ⟨_, h, he⟩)
    · cases h
    · cases h
      exact he
  · exact fun he => .inr ⟨segments, rfl, he⟩

/-- **What is reported for a text that is no template**, in its normal form.

An opening that dangles is reported, the first one, from where it stands to the end of the text, and
whatever the directives before it say. In any other text, which can be cut into segments in one way
only, the first directive is reported that is rejected. If that is a formula, its error is the one it
has on its own, moved by the bytes in front of it. -/
theorem parse_rejects (raw : String) :
    ((∃ span found, Template.parse raw = .error (.unterminated span found)) ↔
      ∃ before inside, Dangles (normalize raw).toList before inside) ∧
    (∀ span found, Template.parse raw = .error (.unterminated span found) ↔
      ∃ before inside, FirstDangling (normalize raw).toList before inside ∧
        span = ⟨byteLength before, byteLength (normalize raw).toList⟩ ∧
        found = String.ofList (opening ++ inside)) ∧
    ((∀ before inside, ¬ Dangles (normalize raw).toList before inside) →
      ∃ segments, Segment.CutInto (normalize raw).toList segments ∧
        (∀ other, Segment.CutInto (normalize raw).toList other → other = segments) ∧
        ((∃ e, Template.parse raw = .error e) ↔ ∃ n e, RejectedAt 0 segments n e) ∧
        (∀ e, Template.parse raw = .error e ↔ FirstError (RejectedAt 0 segments) e) ∧
        ∀ n body blanks args, segments[n]? = some (.directive body) →
          firstWord? body = some (blanks, "dice".toList, args) →
          ∃ head tail, head = (segments.take n).flatMap Segment.text ++ opening ++ blanks ++
              "dice".toList ∧
            (normalize raw).toList = head ++ args ++ '}' :: tail ∧
            ∀ e, RejectedAt 0 segments n e ↔ ∃ span found reason expected,
              Formula.parseChars args = .error (.formula span found reason expected) ∧
              e = .formula (span.shift (byteLength head)) found reason expected) := by
  refine ⟨?_, fun _ _ => parse_eq_unterminated_iff, ?_⟩
  · simp only [parse_eq_unterminated_iff]
    constructor
    · rintro ⟨_, _, before, inside, hfirst, -⟩
      exact ⟨before, inside, hfirst.dangles⟩
    · rintro ⟨before, inside, h⟩
      obtain ⟨before, inside, hfirst⟩ := exists_firstDangling h
      exact ⟨_, _, before, inside, hfirst, rfl, rfl⟩
  · intro hclosed
    obtain ⟨segments, hscan⟩ := exists_cutInto hclosed
    have hcut := Segment.scanFrom_eq_ok_iff.1 hscan
    refine ⟨segments, hcut, ?_, ?_, fun e => parse_eq_error_of_scan hscan, ?_⟩
    · intro other hother
      have hfound := hscan.symm.trans (Segment.scanFrom_eq_ok_iff.2 hother)
      cases hfound
      rfl
    · rw [← exists_firstError_iff]
      exact exists_congr fun e => parse_eq_error_of_scan hscan
    · intro n body blanks args hbody hword
      have hargs := append_of_firstWord? hword
      refine ⟨_, (segments.drop (n + 1)).flatMap Segment.text, rfl, ?_, fun e => ?_⟩
      · have htext := congrArg (List.flatMap Segment.text) (take_append_drop hbody)
        rw [hcut.joined, List.flatMap_append, List.flatMap_cons, Segment.text, ← hargs] at htext
        rw [← htext]
        simp [opening]
      · rw [← ofBody_dice_eq_error_iff _ hword]
        constructor
        · rintro ⟨body', hbody', he⟩
          rw [hbody] at hbody'
          cases hbody'
          rwa [Nat.zero_add] at he
        · intro he
          exact ⟨body, hbody, by rwa [Nat.zero_add]⟩

/-- An opening behind a directive that is rejected is reported all the same. Without it the directive
is: of two that are rejected the first one, a roll without sides behind a character of two bytes. -/
theorem parse_rejects_dangling :
    (∃ before inside, Dangles (normalize "%\x7broll\x7d %\x7bdice 1d6").toList before inside) ∧
    (∃ span found, Template.parse "%\x7broll\x7d %\x7bdice 1d6" =
      .error (.unterminated span found)) ∧
    (∀ before inside, ¬ Dangles (normalize "×%\x7bdice 2d\x7d%\x7broll\x7d").toList before inside) ∧
    ∃ segments, Segment.CutInto (normalize "×%\x7bdice 2d\x7d%\x7broll\x7d").toList segments ∧
      FirstError (RejectedAt 0 segments) (.formula ⟨9, 11⟩ "2d" "unexpected end of input" []) := by
  have hdangles : Dangles (normalize "%\x7broll\x7d %\x7bdice 1d6").toList "%\x7broll\x7d ".toList
      "dice 1d6".toList := ⟨by decide +kernel, by decide⟩
  have hclosed : ∀ before inside,
      ¬ Dangles (normalize "×%\x7bdice 2d\x7d%\x7broll\x7d").toList before inside := by
    intro before inside h
    have htext : (normalize "×%\x7bdice 2d\x7d%\x7broll\x7d").toList =
        "×%\x7bdice 2d\x7d%\x7broll".toList ++ '}' :: [] := by decide +kernel
    rw [htext] at h
    obtain ⟨before', -, h'⟩ := dangles_behind.1 h
    cases before' <;> cases h'.opened
  have hparse : Template.parse "×%\x7bdice 2d\x7d%\x7broll\x7d" =
      .error (.formula ⟨9, 11⟩ "2d" "unexpected end of input" []) := by decide +kernel
  obtain ⟨segments, hcut, -, -, hfirst, -⟩ := (parse_rejects _).2.2 hclosed
  exact ⟨⟨_, _, hdangles⟩, (parse_rejects _).1.2 ⟨_, _, hdangles⟩, hclosed, segments, hcut,
    (hfirst _).1 hparse⟩

end Rulebook.Template
