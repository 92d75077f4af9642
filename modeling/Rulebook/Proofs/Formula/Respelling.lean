import Mathlib.Data.Option.Basic
import Rulebook.Proofs.Formula.Touching

/-!
# Formulas that are spelled differently

* `Apart`: tokens of which the last one on the left and the first one on the right do not have to touch.
  `scan_spread`: the tokens of two texts with spacing between them.
* `parseChars_spread`: **spacing put in between tokens** leaves a formula as it is exactly if they do
  not have to touch. `parseChars_tight`: a formula without all of its spacing.
* `Respelled`: edits of the spacing of a text, and of its multiplication signs. `parse_respelled`: **no
  edit changes what a formula is**, and spacing between tokens that touch makes it none.
-/

namespace Rulebook.Formula

open Token (scanFrom isSpacing Parts Glued Touching)

/-! ## Spacing that is put in -/

/-- Tokens on both sides of a place that do not have to touch there. -/
def Apart (before behind : List (Spanned Token)) : Prop :=
  ∀ t ∈ before.getLast?, ∀ u ∈ behind.head?, ¬ Glued t.value u.value

variable {a b w : List Char} {before behind : List (Spanned Token)} {f : Formula}

/-- **The tokens of two texts with spacing between them.** -/
theorem scan_spread (hne : w ≠ []) (hspacing : ∀ c ∈ w, isSpacing c = true) :
    Token.scan (a ++ (w ++ b)) =
      Token.scan a ++ (scanFrom (byteLength a) b).map (.respan (·.shift (byteLength w))) := by
  have hends : Token.Ends (w ++ b) := by
    obtain ⟨c, w, rfl⟩ := List.exists_cons_of_ne_nil hne
    exact Token.ends_cons (Token.isSymbolPart_of_isSpacing (hspacing c List.mem_cons_self))
  rw [Token.scan_append_of_ends a hends, Token.scanFrom_spacing_append hspacing,
    Token.scanFrom_shift]

/-- Tokens that are moved away from others touch as before, if they do not have to touch those. -/
theorem touching_spread {text : List Char} {pos k : Nat}
    (h : Parts text pos before behind) (hk : 0 < k) :
    Touching (before ++ behind.map (.respan (·.shift k))) ↔
      Touching (Token.scan text) ∧ Apart before behind := by
  rw [h.tokens, Token.touching_append, Token.touching_append, Token.touching_shift, List.head?_map]
  constructor
  · rintro ⟨hbefore, hbehind, hjoint⟩
    have hapart : Apart before behind := by
      intro t ht u hu hglued
      have htouch := hjoint t ht _ (Option.mem_map_of_mem _ hu) hglued
      have hstop := h.stops t (List.mem_of_getLast? ht)
      have hstart := h.starts u (List.mem_of_mem_head? hu)
      simp only [Spanned.respan, Span.shift] at htouch
      omega
    exact ⟨⟨hbefore, hbehind, fun t ht u hu hglued => absurd hglued (hapart t ht u hu)⟩, hapart⟩
  · rintro ⟨⟨hbefore, hbehind, -⟩, hapart⟩
    refine ⟨hbefore, hbehind, fun t ht v hv hglued => ?_⟩
    obtain ⟨u, hu, rfl⟩ := Option.mem_map.1 hv
    exact absurd hglued (hapart t ht u hu)

/-- **Spacing put in between tokens** leaves a formula as it is exactly if they do not have to touch. -/
theorem parseChars_spread (h : Parts (a ++ b) (byteLength a) before behind) (hne : w ≠ [])
    (hspacing : ∀ c ∈ w, isSpacing c = true) :
    parseChars (a ++ (w ++ b)) = .ok f ↔ parseChars (a ++ b) = .ok f ∧ Apart before behind := by
  obtain ⟨hbefore, hbehind⟩ := h.scan
  have hscan := scan_spread hne hspacing (a := a) (b := b)
  rw [hbefore, hbehind] at hscan
  have htouching := touching_spread h (byteLength_pos hne)
  have hvalues : (Token.scan (a ++ (w ++ b))).map (·.value) =
      (Token.scan (a ++ b)).map (·.value) := by
    rw [hscan, h.tokens, List.map_append, List.map_append, List.map_map]
    rfl
  rw [← hscan] at htouching
  constructor
  · intro hparse
    obtain ⟨htouch, hapart⟩ := htouching.1 (parseChars_touching hparse)
    exact ⟨parseChars_of_values hparse hvalues.symm htouch, hapart⟩
  · rintro ⟨hparse, hapart⟩
    exact parseChars_of_values hparse hvalues (htouching.2 ⟨parseChars_touching hparse, hapart⟩)

/-! ## Spacing that is taken out -/

/-- Texts whose tokens stay as they are side by side have a place between them. -/
theorem parts_of_scan (h : Token.scan (a ++ b) = Token.scan a ++ scanFrom (byteLength a) b) :
    Parts (a ++ b) (byteLength a) (Token.scan a) (scanFrom (byteLength a) b) where
  tokens := h
  stops t ht := ((Token.scan_located a).within t ht).stop_le
  starts := (Token.scanFrom_located b a).2

/-- **A formula without a run of its spacing.** No two of its tokens run together, since one of them is
a mark. -/
theorem parseChars_close (hspacing : ∀ c ∈ w, isSpacing c = true)
    (h : parseChars (a ++ (w ++ b)) = .ok f) : parseChars (a ++ b) = .ok f := by
  rcases eq_or_ne w [] with rfl | hne
  · exact h
  -- the tokens next to the run are not both numbers or symbols
  have hmarks := parseChars_isMark h
  rw [scan_spread hne hspacing, List.isChain_append] at hmarks
  obtain ⟨-, -, hjoint⟩ := hmarks
  have hjoined : Token.scan (a ++ b) = Token.scan a ++ scanFrom (byteLength a) b := by
    refine Token.scan_append_of_isMark fun t ht u hu => ?_
    refine hjoint t ht (u.respan (·.shift (byteLength w))) ?_
    rw [List.head?_map]
    exact Option.mem_map_of_mem _ hu
  exact ((parseChars_spread (parts_of_scan hjoined) hne hspacing).1 h).1

/-- **A formula without all of its spacing**, from some place on. -/
theorem parseChars_tight (h : parseChars (a ++ b) = .ok f) :
    parseChars (a ++ b.filter (!isSpacing ·)) = .ok f := by
  induction b generalizing a with
  | nil => exact h
  | cons c b ih =>
    by_cases hc : isSpacing c = true
    · have hclosed : parseChars (a ++ b) = .ok f :=
        parseChars_close (w := [c]) (List.forall_mem_singleton.2 hc) h
      rw [List.filter_cons_of_neg (by simp [hc])]
      exact ih hclosed
    · have hmoved : parseChars ((a ++ [c]) ++ b) = .ok f := by simpa using h
      rw [List.filter_cons_of_pos (by simp [hc])]
      simpa using ih hmoved

/-! ## Multiplication signs -/

/-- The spellings of the multiplication sign. -/
def timesSigns : List Char := ['×', 'x', '*']

/-- A multiplication sign moves the tokens behind it. -/
theorem scan_times {c : Char} (hc : c ∈ timesSigns) (a b : List Char) :
    Token.scan (a ++ c :: b) = Token.scan a ++ ⟨.times, .ofPiece (byteLength a) [c]⟩ ::
      (scanFrom (byteLength a) b).map (.respan (·.shift c.utf8Size)) := by
  simp only [timesSigns, List.mem_cons, List.not_mem_nil, or_false] at hc
  have hsign : isSpacing c = false ∧ Token.isSymbolPart c = false ∧ Token.ofPiece [c] = .times := by
    rcases hc with rfl | rfl | rfl <;> exact ⟨rfl, rfl, rfl⟩
  obtain ⟨hspacing, hpart, hpiece⟩ := hsign
  rw [Token.scan_append_single hspacing hpart, hpiece, ← Token.scanFrom_shift]
  rfl

/-- No token has to touch a multiplication sign. -/
theorem touching_times {s : Span} :
    Touching (before ++ ⟨.times, s⟩ :: behind) ↔ Touching before ∧ Touching behind := by
  have hleft (t : Token) : ¬ Glued t .times := by cases t <;> exact id
  have hright (t : Token) : ¬ Glued .times t := by cases t <;> exact id
  rw [Token.touching_append]
  unfold Touching
  rw [List.isChain_cons]
  simp [hleft, hright]

/-- **A formula with another multiplication sign** in place of one. -/
theorem parseChars_times {c d : Char} (hc : c ∈ timesSigns) (hd : d ∈ timesSigns)
    (h : parseChars (a ++ c :: b) = .ok f) : parseChars (a ++ d :: b) = .ok f := by
  have htouch := parseChars_touching h
  rw [scan_times hc, touching_times, Token.touching_shift] at htouch
  refine parseChars_of_values h ?_ ?_
  · rw [scan_times hc, scan_times hd]
    simp [Function.comp_def, Spanned.respan]
  · rw [scan_times hd, touching_times, Token.touching_shift]
    exact htouch

/-! ## Edits -/

/-- **Edits of a text**: all spacing is taken out, or some is put in between tokens that do not have to
touch, or a multiplication sign is spelled in another way. -/
inductive Respelled : List Char → List Char → Prop where
  | tight (text : List Char) : Respelled text (text.filter (!isSpacing ·))
  | spaced {a b w : List Char} {before behind : List (Spanned Token)}
      (parts : Parts (a ++ b) (byteLength a) before behind) (apart : Apart before behind)
      (spacing : ∀ c ∈ w, isSpacing c = true) : Respelled (a ++ b) (a ++ (w ++ b))
  | times {a b : List Char} {c d : Char} (written : c ∈ timesSigns) (other : d ∈ timesSigns) :
      Respelled (a ++ c :: b) (a ++ d :: b)

/-- An edit leaves a formula as it is. -/
theorem parseChars_respelled {text other : List Char} (hedit : Respelled text other)
    (h : parseChars text = .ok f) : parseChars other = .ok f := by
  cases hedit with
  | tight => exact parseChars_tight (a := []) h
  | @spaced a b w before behind parts apart spacing =>
    rcases eq_or_ne w [] with rfl | hne
    · exact h
    · exact (parseChars_spread parts hne spacing).2 ⟨h, apart⟩
  | times written other => exact parseChars_times written other h

/-- No number of edits changes a formula. -/
theorem parseChars_of_edits {text other : List Char}
    (hedits : Relation.ReflTransGen Respelled text other) (h : parseChars text = .ok f) :
    parseChars other = .ok f := by
  induction hedits with
  | refl => exact h
  | tail _ hedit ih => exact parseChars_respelled hedit ih

/-- **Spacing and spelling do not matter to a formula**, but for spacing within a roll. However a text is
edited, it is the formula that it was, and spacing between a number and a `d` that touch makes it
none. -/
theorem parse_respelled :
    (∀ (s other : String) (f : Formula), Relation.ReflTransGen Respelled s.toList other.toList →
      parse s = .ok f → parse other = .ok f) ∧
    ∀ (a w b : List Char) (before behind : List (Spanned Token)) (t u : Spanned Token) (f : Formula),
      parse (String.ofList (a ++ b)) = .ok f →
      Parts (a ++ b) (byteLength a) (before ++ [t]) (u :: behind) → Glued t.value u.value →
      w ≠ [] → (∀ c ∈ w, isSpacing c = true) →
      ∃ e, parse (String.ofList (a ++ (w ++ b))) = .error e := by
  constructor
  · exact fun s other f hedits h => parseChars_of_edits hedits h
  · intro a w b before behind t u f h hparts hglued hne hspacing
    rw [parse, String.toList_ofList]
    cases hparse : parseChars (a ++ (w ++ b)) with
    | error e => exact ⟨e, rfl⟩
    | ok g =>
      obtain ⟨-, hapart⟩ := (parseChars_spread hparts hne hspacing).1 hparse
      exact absurd hglued (hapart t (by simp) u rfl)

/-- `2d6 × 2` is the formula of `2d6*2 ` too, but not of `2 d6 × 2`. -/
theorem parse_respelled_double :
    parse "2d6 × 2" = .ok ⟨[⟨.plus, .dice ⟨2, 6, some 2⟩⟩]⟩ ∧
    parse "2d6*2 " = .ok ⟨[⟨.plus, .dice ⟨2, 6, some 2⟩⟩]⟩ ∧
    ∃ e, parse "2 d6 × 2" = .error e := by
  have hparse : parse "2d6 × 2" = .ok ⟨[⟨.plus, .dice ⟨2, 6, some 2⟩⟩]⟩ := by decide +kernel
  have htight : Respelled "2d6 × 2".toList "2d6×2".toList := .tight "2d6 × 2".toList
  have htimes : Respelled "2d6×2".toList "2d6*2".toList :=
    .times (a := ['2', 'd', '6']) (b := ['2']) (c := '×') (d := '*') (by decide) (by decide)
  have hspacing : ∀ c ∈ [' '], isSpacing c = true := List.forall_mem_singleton.2 rfl
  have hend : Apart (Token.scan "2d6*2".toList) (scanFrom 5 []) := by
    rw [Token.scanFrom_nil]
    exact fun t _ u hu => by cases hu
  have hspaced : Respelled "2d6*2".toList "2d6*2 ".toList :=
    .spaced (a := ['2', 'd', '6', '*', '2']) (b := [])
      (parts_of_scan (by simp [Token.scanFrom_nil])) hend hspacing
  have hedits : Relation.ReflTransGen Respelled "2d6 × 2".toList "2d6*2 ".toList :=
    ((Relation.ReflTransGen.single htight).tail htimes).tail hspaced
  refine ⟨hparse, parse_respelled.1 _ _ _ hedits hparse, ?_⟩
  refine parse_respelled.2 ['2'] [' '] ['d', '6', ' ', '×', ' ', '2'] []
    [intToken ⟨6, ⟨2, 3⟩⟩, ⟨.times, ⟨4, 6⟩⟩, intToken ⟨2, ⟨7, 8⟩⟩] (intToken ⟨2, ⟨0, 1⟩⟩)
    ⟨.die, ⟨1, 2⟩⟩ _ hparse ⟨by decide +kernel, by decide, by decide⟩ trivial (by decide) hspacing

end Rulebook.Formula
