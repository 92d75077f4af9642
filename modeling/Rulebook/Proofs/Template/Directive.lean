import Rulebook.Proofs.Outcome
import Rulebook.Template.Directive
import Rulebook.Template.Segment

/-!
# What a directive body is read as

The cases of the reader of directives, each with all that it decides on. Later proofs take a body
apart with these lemmas and never open the reader.

* `ofBody_cases`: a body is empty, a formula, a reference, or starts with another word. `ofBody_dice`,
  `ofBody_ref`: the two of these that are directives.
* `readDice_cases`, `readRef_cases`: what is behind the keyword of a formula and of a reference.
-/

namespace Rulebook.Template

/-- **The cases of a directive body**, by its first word. -/
theorem ofBody_cases (start : Nat) (body : List Char) :
    (firstWord? body = none ∧ Node.ofBody start body =
      .error (DirectiveFault.empty.toParseError start (Segment.directive body).text)) ∨
    ∃ before word args, firstWord? body = some (before, word, args) ∧
      (word = "dice".toList ∧ Node.ofBody start body = Node.dice <$>
          readDice (start + 2 + byteLength before + byteLength word) args ∨
        word = "ref".toList ∧ Node.ofBody start body = Node.ref <$>
          readRef start (Segment.directive body).text
            (start + 2 + byteLength before + byteLength word) args ∨
        word ≠ "dice".toList ∧ word ≠ "ref".toList ∧ Node.ofBody start body =
          .error ((DirectiveFault.unknownKeyword (String.ofList word)).toParseError
            (start + 2 + byteLength before) word)) := by
  unfold Node.ofBody
  cases hword : firstWord? body with
  | none => exact .inl ⟨rfl, rfl⟩
  | some parts =>
    obtain ⟨before, word, args⟩ := parts
    refine .inr ⟨before, word, args, rfl, ?_⟩
    simp only
    by_cases hdice : word = "dice".toList
    · exact .inl ⟨hdice, if_pos hdice⟩
    · rw [if_neg hdice]
      by_cases href : word = "ref".toList
      · exact .inr (.inl ⟨href, if_pos href⟩)
      · exact .inr (.inr ⟨hdice, href, if_neg href⟩)

theorem ofBody_dice {body before args : List Char} (start : Nat)
    (h : firstWord? body = some (before, "dice".toList, args)) :
    Node.ofBody start body = Node.dice <$>
      readDice (start + 2 + byteLength before + byteLength "dice".toList) args := by
  unfold Node.ofBody
  rw [h]
  exact if_pos rfl

theorem ofBody_ref {body before args : List Char} (start : Nat)
    (h : firstWord? body = some (before, "ref".toList, args)) :
    Node.ofBody start body = Node.ref <$> readRef start (Segment.directive body).text
      (start + 2 + byteLength before + byteLength "ref".toList) args := by
  unfold Node.ofBody
  rw [h]
  exact (if_neg (by decide)).trans (if_pos rfl)

/-- The cases of a formula: its error is moved to where its text stands. -/
theorem readDice_cases (pos : Nat) (args : List Char) :
    (∃ formula, Formula.parseChars args = .ok formula ∧
      readDice pos args = .ok ⟨formula, String.ofList (trim args)⟩) ∨
    ∃ e, Formula.parseChars args = .error e ∧ readDice pos args = .error (e.shift pos) := by
  unfold readDice
  cases Formula.parseChars args with
  | ok formula => exact .inl ⟨formula, rfl, rfl⟩
  | error e => exact .inr ⟨e, rfl, rfl⟩

/-- **The cases of a reference.** All faults are reported at the whole directive, but for a name of
no collection. -/
theorem readRef_cases (start : Nat) (raw : List Char) (pos : Nat) (args : List Char) :
    (firstWord? args = none ∧
      readRef start raw pos args =
        .error (DirectiveFault.missingCollection.toParseError start raw)) ∨
    ∃ before word after, firstWord? args = some (before, word, after) ∧
      ((∃ cause, Collection.parse (String.ofList word) = .error cause ∧
          readRef start raw pos args = .error ((DirectiveFault.unknownCollection cause).toParseError
            (pos + byteLength before) word)) ∨
        ∃ c, Collection.parse (String.ofList word) = .ok c ∧
          ((∃ fault, readTarget after = .error fault ∧
              readRef start raw pos args = .error (fault.toParseError start raw)) ∨
            ∃ id display, readTarget after = .ok (id, display) ∧
              readRef start raw pos args = .ok
                ⟨⟨c, String.ofList id⟩, display.map String.ofList, String.ofList raw⟩)) := by
  unfold readRef
  cases hword : firstWord? args with
  | none => exact .inl ⟨rfl, rfl⟩
  | some parts =>
    obtain ⟨before, word, after⟩ := parts
    refine .inr ⟨before, word, after, rfl, ?_⟩
    simp only
    cases hname : Collection.parse (String.ofList word) with
    | error cause => exact .inl ⟨cause, rfl, rfl⟩
    | ok c =>
      refine .inr ⟨c, rfl, ?_⟩
      cases htarget : readTarget after with
      | error fault => exact .inl ⟨fault, rfl, rfl⟩
      | ok target => exact .inr ⟨target.1, target.2, rfl, rfl⟩

/-- A reference keeps its directive as it is written. -/
theorem readRef_raw {start pos : Nat} {raw args : List Char} {r : RefDirective}
    (h : readRef start raw pos args = .ok r) : r.raw = String.ofList raw := by
  rcases readRef_cases start raw pos args with ⟨-, he⟩ | ⟨before, word, after, -, ⟨cause, -, he⟩ |
    ⟨c, -, ⟨fault, -, he⟩ | ⟨id, display, -, hok⟩⟩⟩
  · rw [he] at h; cases h
  · rw [he] at h; cases h
  · rw [he] at h; cases h
  · rw [hok] at h; cases h; rfl

end Rulebook.Template
