/-!
# Blank characters and words

Blank characters are those of the Unicode property White_Space.

* `isBlank`: the property, and `isBlankText` for a text of blanks only.
* `trimStart`, `trimEnd`, `trim`: a text without the blanks at its ends.
* `firstWord?`: the first run of other characters, with what stands around it.
-/

namespace Rulebook

/-- The blank characters: the 25 of the Unicode property White_Space. -/
def isBlank (c : Char) : Bool :=
  let n := c.toNat
  (9 ≤ n && n ≤ 13) || n == 0x20 || n == 0x85 || n == 0xa0 || n == 0x1680 ||
    (0x2000 ≤ n && n ≤ 0x200a) || n == 0x2028 || n == 0x2029 || n == 0x202f || n == 0x205f ||
    n == 0x3000

/-- Whether a text holds blanks only. -/
def isBlankText (text : List Char) : Bool := text.all isBlank

/-- A text without the blanks it starts with. -/
def trimStart (text : List Char) : List Char := text.dropWhile isBlank

/-- A text without the blanks it ends with. -/
def trimEnd (text : List Char) : List Char := (text.reverse.dropWhile isBlank).reverse

/-- A text without the blanks at both ends. -/
def trim (text : List Char) : List Char := trimEnd (trimStart text)

/-- The first word of a text: the blanks before it, the word, and the text after it. A text of
blanks only has none. -/
def firstWord? (text : List Char) : Option (List Char × List Char × List Char) :=
  match text.dropWhile isBlank with
  | [] => none
  | rest => some (text.takeWhile isBlank, rest.takeWhile (!isBlank ·), rest.dropWhile (!isBlank ·))

/-- Nothing of the text is lost around its first word. -/
theorem append_of_firstWord? {text before word after : List Char}
    (h : firstWord? text = some (before, word, after)) : before ++ (word ++ after) = text := by
  unfold firstWord? at h
  split at h
  · simp at h
  · simp only [Option.some.injEq, Prod.mk.injEq] at h
    obtain ⟨rfl, rfl, rfl⟩ := h
    rw [List.takeWhile_append_dropWhile, List.takeWhile_append_dropWhile]

end Rulebook
