/-!
# Texts put together

Paths and messages are put together from fixed pieces, from other texts, and from numbers in
decimal. This module says what of it can be told from the whole text.

* `starts_of_append`: the piece that a text starts with.
* `toString_injective`: numbers that are written alike are equal.
* `numbered_injective`: so are those between the same pieces.
* `append_number`: a number at the end of a text is told from what stands before it.
* `append_piece_iff`: the ways to cut a text at a fixed piece.
* `infix_of_append`: a piece that does not reach the end of a text.
-/

namespace Rulebook

/-- A text that is put together starts with its first piece. -/
theorem starts_of_append {start rest text : String} (h : start ++ rest = text) :
    start.toList <+: text.toList := by
  rw [← h, String.toList_append]
  exact List.prefix_append _ _

theorem toList_toString (n : Nat) : (toString n).toList = Nat.toDigits 10 n := Nat.toList_repr

theorem toDigits_injective {m n : Nat} (h : Nat.toDigits 10 m = Nat.toDigits 10 n) : m = n := by
  have hvalue := congrArg (Nat.ofDigitChars 10 · 0) h
  simpa only [Nat.ofDigitChars_ten_toDigits] using hvalue

theorem toString_injective {m n : Nat} (h : toString m = toString n) : m = n := by
  have hlist := congrArg String.toList h
  rw [toList_toString, toList_toString] at hlist
  exact toDigits_injective hlist

/-- Numbers that are written alike between the same pieces are equal. -/
theorem numbered_injective {before after : String} {m n : Nat}
    (h : before ++ toString m ++ after = before ++ toString n ++ after) : m = n :=
  toString_injective ((String.append_right_inj before).1 ((String.append_left_inj after).1 h))

/-- The digits at the end of a text are those of the number that is written there, if the
character before them is no digit. -/
theorem takeWhile_reverse_number {c : Char} (hc : c.isDigit = false) (before : List Char)
    (n : Nat) : ((before ++ c :: Nat.toDigits 10 n).reverse.takeWhile Char.isDigit) =
      (Nat.toDigits 10 n).reverse := by
  have hdigits : ∀ d ∈ (Nat.toDigits 10 n).reverse, d.isDigit = true := fun d hd =>
    Nat.isDigit_of_mem_toDigits (by omega) (by omega) (List.mem_reverse.1 hd)
  rw [List.reverse_append, List.reverse_cons, List.append_assoc,
    List.takeWhile_append_of_pos hdigits, List.singleton_append,
    List.takeWhile_cons_of_neg (by simp [hc]), List.append_nil]

/-- **A number at the end of a text** is told from what stands before it, if the piece between them
ends with a character that is no digit. -/
theorem append_number (piece : String) (start : List Char) {c : Char}
    (hpiece : piece.toList = start ++ [c]) (hc : c.isDigit = false) {a b : String} {m n : Nat}
    (h : a ++ piece ++ toString m = b ++ piece ++ toString n) : a = b ∧ m = n := by
  have hlist := congrArg String.toList h
  simp only [String.toList_append, hpiece, toList_toString, ← List.append_assoc,
    List.append_assoc _ [c], List.singleton_append] at hlist
  -- read from their ends, both texts start with the digits of their number
  have hdigits := congrArg (·.reverse.takeWhile Char.isDigit) hlist
  simp only [takeWhile_reverse_number hc] at hdigits
  have hn : m = n := toDigits_injective (List.reverse_inj.1 hdigits)
  subst hn
  exact ⟨(String.append_left_inj piece).1 ((String.append_left_inj (toString m)).1 h), rfl⟩

/-! ## Cutting a text at a piece -/

/-- **The next place of a piece.** If its first character stands nowhere else in a piece, a text
that starts with the piece has it again only behind that. -/
theorem cut_later {c : Char} {rest b mid b' : List Char} (hc : c ∉ rest)
    (h : c :: rest ++ b = mid ++ (c :: rest ++ b')) :
    (mid = [] ∧ b = b') ∨ ∃ m, mid = c :: rest ++ m ∧ b = m ++ (c :: rest ++ b') := by
  cases mid with
  | nil => exact .inl ⟨rfl, by simpa using h⟩
  | cons x mid =>
    rw [List.cons_append, List.cons_append, List.cons.injEq] at h
    obtain ⟨rfl, h⟩ := h
    rcases List.append_eq_append_iff.1 h with ⟨m, hmid, hb⟩ | ⟨k, hrest, hb⟩
    · exact .inr ⟨m, by rw [hmid, List.cons_append], hb⟩
    · cases k with
      | nil => exact .inr ⟨[], by simpa using hrest.symm, by simpa using hb.symm⟩
      | cons x k =>
        -- the second place would start within the first one
        rw [List.cons_append, List.cons_append, List.cons.injEq] at hb
        obtain ⟨rfl, -⟩ := hb
        exact absurd (by simp [hrest]) hc

section

variable {piece : String} {c : Char} {rest : List Char}

/-- Of two ways to cut a text at a piece, the one that cuts later has the piece in its first part
as well. -/
theorem append_piece_later (hpiece : piece.toList = c :: rest) (hc : c ∉ rest) {a b a' b' : String}
    {mid : List Char} (ha : a'.toList = a.toList ++ mid)
    (hb : piece.toList ++ b.toList = mid ++ (piece.toList ++ b'.toList)) :
    (a = a' ∧ b = b') ∨ ∃ mid, a' = a ++ piece ++ mid ∧ b = mid ++ piece ++ b' := by
  rw [hpiece] at hb
  rcases cut_later hc hb with ⟨rfl, hsame⟩ | ⟨m, rfl, hlater⟩
  · rw [List.append_nil] at ha
    exact .inl ⟨(String.toList_inj.1 ha).symm, String.toList_inj.1 hsame⟩
  · refine .inr ⟨String.ofList m, String.toList_inj.1 ?_, String.toList_inj.1 ?_⟩
    · simp [ha, hpiece]
    · simp [hlater, hpiece]

/-- **Two ways to cut a text at a piece** are the same, or one of them has the piece in its first
part, where the other one cuts, and the other one has it in its second part. -/
theorem append_piece_iff (hpiece : piece.toList = c :: rest) (hc : c ∉ rest) {a b a' b' : String} :
    a ++ piece ++ b = a' ++ piece ++ b' ↔ (a = a' ∧ b = b') ∨
      (∃ mid, a' = a ++ piece ++ mid ∧ b = mid ++ piece ++ b') ∨
      ∃ mid, a = a' ++ piece ++ mid ∧ b' = mid ++ piece ++ b := by
  constructor
  · intro h
    have hlist := congrArg String.toList h
    simp only [String.toList_append, List.append_assoc] at hlist
    rcases List.append_eq_append_iff.1 hlist with ⟨mid, ha, hb⟩ | ⟨mid, ha, hb⟩
    · exact (append_piece_later hpiece hc ha hb).imp_right .inl
    · rcases append_piece_later hpiece hc ha hb with ⟨rfl, rfl⟩ | hlater
      · exact .inl ⟨rfl, rfl⟩
      · exact .inr (.inr hlater)
  · rintro (⟨rfl, rfl⟩ | ⟨mid, rfl, rfl⟩ | ⟨mid, rfl, rfl⟩)
    · rfl
    · simp only [String.append_assoc]
    · simp only [String.append_assoc]

end

/-- **A piece that does not reach the end of a text.** If the last character of the piece is not
among the last ones of the text, the piece stands in what precedes these. -/
theorem infix_of_append {text tail before start after : List Char} {c : Char} (hc : c ∉ tail)
    (h : text ++ tail = before ++ (start ++ [c]) ++ after) : start ++ [c] <:+: text := by
  rcases List.append_eq_append_iff.1 h with ⟨k, hpiece, htail⟩ | ⟨k, htext, -⟩
  · rcases List.eq_nil_or_concat k with rfl | ⟨k, x, rfl⟩
    · exact ⟨before, [], by simpa using hpiece⟩
    · -- the piece would end in the last characters
      rw [List.concat_eq_append, ← List.append_assoc, ← List.append_assoc] at hpiece
      obtain ⟨-, hlast⟩ := List.append_inj' hpiece rfl
      cases hlast
      exact absurd (by simp [htail]) hc
  · exact ⟨before, k, htext.symm⟩

end Rulebook
