/-!
# Spans of bytes

A position in a text is a count of bytes of its UTF-8 form, and a span is a half-open range of
positions. Texts are lists of characters, so a position is the byte length of what precedes it.

* `byteLength`: the length of a text in bytes.
* `Span`, `Spanned`: a range of positions, and a value with the range it was read from.
* `dropBytes`, `takeBytes`, `Span.slice`: cutting a text at positions.
* `splitBytes?`, `Span.get?`: the same cuts, which fail inside a character and behind the end.
* `lastPosition?`: the position of the last character with a property.
-/

namespace Rulebook

/-- The length of a text in bytes of its UTF-8 form. -/
def byteLength : List Char → Nat
  | [] => 0
  | c :: cs => c.utf8Size + byteLength cs

@[simp] theorem byteLength_nil : byteLength [] = 0 := rfl

@[simp] theorem byteLength_cons (c : Char) (cs : List Char) :
    byteLength (c :: cs) = c.utf8Size + byteLength cs := rfl

@[simp] theorem byteLength_append (a b : List Char) :
    byteLength (a ++ b) = byteLength a + byteLength b := by
  induction a with
  | nil => simp
  | cons c cs ih => simp [ih, Nat.add_assoc]

/-- A text with a character in it takes up some bytes. -/
theorem exists_byteLength_cons (c : Char) (cs : List Char) :
    ∃ n, byteLength (c :: cs) = n + 1 :=
  Nat.exists_eq_add_one.2 (Nat.add_pos_left c.utf8Size_pos _)

/-- A half-open range of positions in a text. -/
structure Span where
  start : Nat
  stop : Nat
  deriving DecidableEq, Repr, Inhabited

/-- A value together with the span it was read from. -/
structure Spanned (α : Type) where
  value : α
  span : Span
  deriving DecidableEq, Repr

namespace Span

/-- The span of a piece of text that starts at a position. -/
def ofPiece (pos : Nat) (piece : List Char) : Span := ⟨pos, pos + byteLength piece⟩

/-- The span moved to the right, for a text that stands inside another one. -/
def shift (s : Span) (offset : Nat) : Span := ⟨s.start + offset, s.stop + offset⟩

end Span

/-- The text after its first `n` bytes. -/
def dropBytes : Nat → List Char → List Char
  | 0, cs => cs
  | _ + 1, [] => []
  | n + 1, c :: cs => dropBytes (n + 1 - c.utf8Size) cs

/-- The characters that start within the first `n` bytes of a text. -/
def takeBytes : Nat → List Char → List Char
  | 0, _ => []
  | _ + 1, [] => []
  | n + 1, c :: cs => c :: takeBytes (n + 1 - c.utf8Size) cs

/-- The part of a text that lies in a span. -/
def Span.slice (s : Span) (text : List Char) : List Char :=
  takeBytes (s.stop - s.start) (dropBytes s.start text)

/-- Cutting a text where its first part ends gives the two parts. -/
theorem cutBytes_append (a b : List Char) :
    takeBytes (byteLength a) (a ++ b) = a ∧ dropBytes (byteLength a) (a ++ b) = b := by
  induction a with
  | nil => cases b <;> exact ⟨rfl, rfl⟩
  | cons c cs ih =>
    obtain ⟨n, hn⟩ := exists_byteLength_cons c cs
    obtain ⟨htake, hdrop⟩ := ih
    rw [hn, List.cons_append, takeBytes, dropBytes, ← hn, byteLength_cons, Nat.add_sub_cancel_left,
      htake, hdrop]
    exact ⟨rfl, rfl⟩

theorem takeBytes_append (a b : List Char) : takeBytes (byteLength a) (a ++ b) = a :=
  (cutBytes_append a b).1

theorem dropBytes_append (a b : List Char) : dropBytes (byteLength a) (a ++ b) = b :=
  (cutBytes_append a b).2

/-- Cutting a text at the span of one of its pieces gives the piece. -/
theorem Span.slice_append (before piece after : List Char) :
    (Span.ofPiece (byteLength before) piece).slice (before ++ piece ++ after) = piece := by
  rw [Span.slice, Span.ofPiece, Nat.add_sub_cancel_left, List.append_assoc, dropBytes_append,
    takeBytes_append]

/-- A text cut at a position. There is no cut inside a character or behind the end. -/
def splitBytes? : Nat → List Char → Option (List Char × List Char)
  | 0, cs => some ([], cs)
  | _ + 1, [] => none
  | n + 1, c :: cs =>
    if c.utf8Size ≤ n + 1 then
      (splitBytes? (n + 1 - c.utf8Size) cs).map fun (before, after) => (c :: before, after)
    else none

/-- **The cuts of a text** are those between two of its characters. -/
theorem splitBytes?_eq_some_iff {n : Nat} {text a b : List Char} :
    splitBytes? n text = some (a, b) ↔ text = a ++ b ∧ byteLength a = n := by
  constructor
  · intro h
    fun_induction splitBytes? n text generalizing a with
    | case1 cs =>
      cases h
      exact ⟨rfl, rfl⟩
    | case2 n => cases h
    | case3 n c cs hle ih =>
      obtain ⟨⟨before, after⟩, hcut, hparts⟩ := Option.map_eq_some_iff.1 h
      cases hparts
      obtain ⟨rfl, hlength⟩ := ih hcut
      refine ⟨rfl, ?_⟩
      rw [byteLength_cons, hlength]
      omega
    | case4 n c cs hlt => cases h
  · rintro ⟨rfl, rfl⟩
    induction a with
    | nil => cases b <;> rfl
    | cons c cs ih =>
      obtain ⟨n, hn⟩ := exists_byteLength_cons c cs
      have hle : c.utf8Size ≤ byteLength (c :: cs) := Nat.le_add_right _ _
      rw [hn, List.cons_append, splitBytes?, ← hn, if_pos hle, byteLength_cons,
        Nat.add_sub_cancel_left, ih, Option.map_some]

namespace Span

/-- The part of a text in a span, if the span starts and ends between two characters of it. -/
def get? (s : Span) (text : List Char) : Option (List Char) :=
  if s.start ≤ s.stop then do
    let (_, rest) ← splitBytes? s.start text
    let (piece, _) ← splitBytes? (s.stop - s.start) rest
    return piece
  else none

/-- **What a span gets from a text** is a piece of it that has this span. -/
theorem get?_eq_some_iff {s : Span} {text piece : List Char} :
    s.get? text = some piece ↔
      ∃ before after, text = before ++ piece ++ after ∧ s = ofPiece (byteLength before) piece := by
  obtain ⟨start, stop⟩ := s
  constructor
  · intro h
    rw [get?] at h
    split at h
    · rename_i hle
      obtain ⟨⟨before, rest⟩, hstart, h⟩ := Option.bind_eq_some_iff.1 h
      obtain ⟨⟨piece', after⟩, hstop, h⟩ := Option.bind_eq_some_iff.1 h
      cases h
      obtain ⟨rfl, rfl⟩ := splitBytes?_eq_some_iff.1 hstart
      obtain ⟨rfl, hlength⟩ := splitBytes?_eq_some_iff.1 hstop
      refine ⟨before, after, (List.append_assoc _ _ _).symm, ?_⟩
      rw [ofPiece, hlength, Nat.add_sub_cancel' hle]
    · cases h
  · rintro ⟨before, after, rfl, hs⟩
    cases hs
    have hstart : splitBytes? (byteLength before) (before ++ piece ++ after) =
        some (before, piece ++ after) :=
      splitBytes?_eq_some_iff.2 ⟨List.append_assoc _ _ _, rfl⟩
    have hstop : splitBytes? (byteLength piece) (piece ++ after) = some (piece, after) :=
      splitBytes?_eq_some_iff.2 ⟨rfl, rfl⟩
    rw [get?, if_pos (Nat.le_add_right _ _), hstart]
    simp only [Nat.add_sub_cancel_left, Option.bind_eq_bind, Option.bind_some, hstop]
    rfl

end Span

/-- The position of the last character of a text with a property. -/
def lastPosition? (p : Char → Bool) : List Char → Option Nat
  | [] => none
  | c :: cs =>
    match lastPosition? p cs with
    | some n => some (c.utf8Size + n)
    | none => if p c then some 0 else none

/-- **The last character with a property** is the one that none with it follows. -/
theorem lastPosition?_cases (p : Char → Bool) (text : List Char) :
    (lastPosition? p text = none ∧ ∀ c ∈ text, p c = false) ∨
      ∃ before c after, text = before ++ c :: after ∧ p c = true ∧ (∀ d ∈ after, p d = false) ∧
        lastPosition? p text = some (byteLength before) := by
  induction text with
  | nil => exact .inl ⟨rfl, List.forall_mem_nil _⟩
  | cons c cs ih =>
    rcases ih with ⟨hnone, hcs⟩ | ⟨before, d, after, rfl, hd, hafter, hsome⟩
    · rw [lastPosition?, hnone]
      by_cases hc : p c = true
      · exact .inr ⟨[], c, cs, rfl, hc, hcs, if_pos hc⟩
      · exact .inl ⟨if_neg hc, List.forall_mem_cons.2 ⟨by simpa using hc, hcs⟩⟩
    · refine .inr ⟨c :: before, d, after, rfl, hd, hafter, ?_⟩
      rw [lastPosition?, hsome, byteLength_cons]

end Rulebook
