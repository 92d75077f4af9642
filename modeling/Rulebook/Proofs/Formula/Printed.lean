import Mathlib.Tactic.Set
import Rulebook.Proofs.Formula.Grammar
import Rulebook.Proofs.Formula.Scan

/-!
# Printed formulas

A formula that is printed and read again.

* `Formula.WellFormed`: the formulas that some text is read as: the first term is added, and no
  roll has a 0 in it.
* `scan_term`, `scan_sign`: the tokens of a printed term, and of a printed operator.
* `parse_text`: **a well-formed formula is read from its own text.**
* `wellFormed_of_parse`: nothing but a well-formed formula is ever read.
-/

namespace Rulebook

/-- A roll without a 0 in it. -/
structure Roll.Positive (r : Roll) : Prop where
  count : 0 < r.count
  sides : 0 < r.sides
  multiplier : ∀ m ∈ r.multiplier, 0 < m

/-- A term that can be written: a roll in it is positive. -/
def Term.Positive (t : Term) : Prop := ∀ r, t = .dice r → r.Positive

namespace Formula

/-- A formula that can be written: it has a first term, which is added, and its rolls are
positive. -/
structure WellFormed (f : Formula) : Prop where
  starts : f.terms.head?.map (·.sign) = some .plus
  positive : ∀ t ∈ f.terms, t.term.Positive

/-! ## Only well-formed formulas are read -/

theorem TermTree.Legal.positive {t : TermTree} (h : t.Legal) : t.term.Positive := by
  intro r hr
  cases h with
  | flat n => cases hr
  | symbol s span => cases hr
  | @roll count die sides m count_touches count_pos sides_touch sides_pos multiplier_pos =>
    cases hr
    refine ⟨?_, sides_pos, ?_⟩
    · rcases count with _ | c
      · exact show (0 : UInt32) < 1 by decide
      · exact count_pos c rfl
    · intro x hx
      rcases m with _ | m
      · cases hx
      · cases hx
        exact multiplier_pos m rfl

/-- **What is read is well formed.** -/
theorem wellFormed_of_parse {text : String} {f : Formula} (h : parse text = .ok f) :
    f.WellFormed := by
  obtain ⟨t, ⟨hfirst, hmore⟩, -, rfl⟩ := readTerms_eq_ok_iff.1 (parse_eq_ok.1 h)
  refine ⟨rfl, ?_⟩
  intro x hx
  rcases List.mem_cons.1 hx with rfl | hx
  · exact hfirst.positive
  · obtain ⟨p, hp, rfl⟩ := List.mem_map.1 hx
    exact (hmore p hp).positive

/-! ## The tokens of a printed formula -/

/-- A number as it is printed. -/
def digits (n : UInt32) : List Char := Nat.toDigits 10 n.toNat

theorem digits_eq_cons (n : UInt32) :
    ∃ c cs, digits n = c :: cs ∧ c.isDigit = true ∧ ∀ d ∈ cs, d.isDigit = true := by
  have hall : ∀ d ∈ digits n, d.isDigit = true := fun d hd =>
    Nat.isDigit_of_mem_toDigits (by omega) (by omega) hd
  cases h : digits n with
  | nil => exact absurd h Nat.toDigits_ne_nil
  | cons c cs =>
    rw [h] at hall
    exact ⟨c, cs, rfl, hall c List.mem_cons_self, fun d hd => hall d (List.mem_cons_of_mem _ hd)⟩

/-- A printed number has the value that was printed. -/
theorem ofDigits_digits (n : UInt32) : Token.ofDigits (digits n) = .int n := by
  have hn : Nat.ofDigitChars 10 (digits n) 0 = n.toNat := Nat.ofDigitChars_ten_toDigits
  unfold Token.ofDigits
  simp only [hn, n.toNat_lt, if_true, UInt32.ofNat_toNat]

open Token (Ends scanFrom)

/-- A printed number is one token. -/
theorem scan_digits (pos : Nat) (n : UInt32) {rest : List Char} (hr : Ends rest) :
    scanFrom pos (digits n ++ rest) =
      intToken ⟨n, .ofPiece pos (digits n)⟩ :: scanFrom (pos + byteLength (digits n)) rest := by
  obtain ⟨c, cs, hd, hc, hcs⟩ := digits_eq_cons n
  have hpiece : Token.ofPiece (c :: cs) = .int n := by
    rw [Token.ofPiece_word (.inl hc), if_pos hc, ← hd, ofDigits_digits]
  rw [hd, Token.scanFrom_piece_of_ends (Token.isSpacing_of_word (.inl hc))
    (by rw [Token.continues_of_isDigit hc]; exact hcs) hr, hpiece]
  rfl

/-- A printed operator is one token between two blanks. -/
theorem scan_sign (pos : Nat) (s : Sign) (rest : List Char) :
    scanFrom pos (s.text.toList ++ rest) =
      signToken ⟨s, .ofPiece (pos + 1) [' ']⟩ :: scanFrom (pos + 3) rest := by
  cases s with
  | plus =>
    show scanFrom pos (' ' :: '+' :: ' ' :: rest) = _
    rw [Token.scanFrom_spacing rfl, Token.scanFrom_single rfl rfl rfl, Token.scanFrom_spacing rfl]
    rfl
  | minus =>
    show scanFrom pos (' ' :: '-' :: ' ' :: rest) = _
    rw [Token.scanFrom_spacing rfl, Token.scanFrom_single rfl rfl rfl, Token.scanFrom_spacing rfl]
    rfl

/-- A printed symbol is one token. -/
theorem scan_symbol (pos : Nat) (s : Symbol) {rest : List Char} (hr : Ends rest) :
    scanFrom pos (s.name.toList ++ rest) =
      ⟨.symbol s.name, .ofPiece pos s.name.toList⟩ ::
        scanFrom (pos + byteLength s.name.toList) rest := by
  cases s with
  | modifier =>
    have hcs : ∀ d ∈ ['O', 'D'], Token.continues 'M' d = true :=
      List.forall_mem_cons.2 ⟨rfl, List.forall_mem_cons.2 ⟨rfl, List.forall_mem_nil _⟩⟩
    exact Token.scanFrom_piece_of_ends rfl hcs hr

/-- A multiplier as it is printed. -/
def multiplierText : Option UInt32 → List Char
  | none => []
  | some m => ' ' :: '×' :: ' ' :: digits m

theorem text_toList_roll (r : Roll) :
    r.text.toList = digits r.count ++ 'd' :: (digits r.sides ++ multiplierText r.multiplier) := by
  have hd : (toString "d").toList = ['d'] := rfl
  have hx : (toString " × ").toList = [' ', '×', ' '] := rfl
  obtain ⟨count, sides, _ | m⟩ := r <;> simp [Roll.text, multiplierText, digits, hd, hx]

/-- A printed multiplier is two tokens, and none is nothing. -/
theorem scan_multiplier (pos : Nat) (m : Option UInt32) {rest : List Char} (hr : Ends rest) :
    ∃ x : Option (Span × Spanned UInt32), x.map (·.2.value) = m ∧
      scanFrom pos (multiplierText m ++ rest) =
        TermTree.multiplierTokens x ++ scanFrom (pos + byteLength (multiplierText m)) rest := by
  rcases m with _ | m
  · exact ⟨none, rfl, rfl⟩
  · refine ⟨some (.ofPiece (pos + 1) ['×'], ⟨m, .ofPiece (pos + 4) (digits m)⟩), rfl, ?_⟩
    show scanFrom pos (' ' :: '×' :: ' ' :: (digits m ++ rest)) = _
    rw [Token.scanFrom_spacing rfl, Token.scanFrom_single rfl rfl rfl, Token.scanFrom_spacing rfl]
    have hpos : pos + ' '.utf8Size + byteLength ['×'] + ' '.utf8Size = pos + 4 := rfl
    rw [hpos, scan_digits _ _ hr]
    have hlen : byteLength (multiplierText (some m)) = 4 + byteLength (digits m) := by
      show 1 + (2 + (1 + byteLength (digits m))) = _
      omega
    rw [hlen, ← Nat.add_assoc]; rfl

theorem ends_multiplierText (m : Option UInt32) {rest : List Char} (hr : Ends rest) :
    Ends (multiplierText m ++ rest) := by
  rcases m with _ | m
  · exact hr
  · exact Token.ends_cons rfl

/-- A printed roll is the tokens of a roll: its count, `d` and sides touch. -/
theorem scan_roll (pos : Nat) {r : Roll} (hp : r.Positive) {rest : List Char} (hr : Ends rest) :
    ∃ t : TermTree, t.Legal ∧ t.term = .dice r ∧
      scanFrom pos (r.text.toList ++ rest) =
        t.tokens ++ scanFrom (pos + byteLength r.text.toList) rest := by
  obtain ⟨count, sides, multiplier⟩ := r
  obtain ⟨hcount, hsides, hmultiplier⟩ := hp
  set atDie := pos + byteLength (digits count) with hDie
  set atSides := atDie + byteLength ['d'] with hSides
  -- each part of the roll starts where the one before it stops
  obtain ⟨x, hx, hm⟩ := scan_multiplier (atSides + byteLength (digits sides)) multiplier hr
  refine ⟨.roll (some ⟨count, .ofPiece pos (digits count)⟩) (.ofPiece atDie ['d'])
    ⟨sides, .ofPiece atSides (digits sides)⟩ x, .roll ?_ ?_ rfl hsides ?_, ?_, ?_⟩
  · intro c hc
    cases hc; rfl
  · intro c hc
    cases hc; exact hcount
  · intro y hy
    refine hmultiplier _ ?_
    rw [← hx, hy]; rfl
  · rw [TermTree.term, hx]; rfl
  · have hlen : pos + byteLength (Roll.text ⟨count, sides, multiplier⟩).toList =
        atSides + byteLength (digits sides) + byteLength (multiplierText multiplier) := by
      rw [text_toList_roll, byteLength_append, hSides, hDie]
      simp only [byteLength_cons, byteLength_append, byteLength_nil]
      omega
    have hsides : Ends (multiplierText multiplier ++ rest) := ends_multiplierText multiplier hr
    rw [hlen, text_toList_roll]
    simp only [List.append_assoc, List.cons_append]
    rw [scan_digits pos count (Token.ends_cons rfl), Token.scanFrom_single rfl rfl rfl,
      scan_digits _ sides hsides, hm]
    rfl

/-- **A printed term is the tokens of the term**, if nothing behind it goes on with it. -/
theorem scan_term (pos : Nat) {t : Term} (hp : t.Positive) {rest : List Char} (hr : Ends rest) :
    ∃ tree : TermTree, tree.Legal ∧ tree.term = t ∧
      scanFrom pos (t.text.toList ++ rest) =
        tree.tokens ++ scanFrom (pos + byteLength t.text.toList) rest := by
  cases t with
  | dice r => exact scan_roll pos (hp r rfl) hr
  | flat n =>
    have htext : (Term.flat n).text.toList = digits n := by simp [Term.text, digits]
    refine ⟨.flat ⟨n, .ofPiece pos (digits n)⟩, .flat _, rfl, ?_⟩
    rw [htext, scan_digits pos n hr]; rfl
  | symbol s => exact ⟨.symbol s _, .symbol s _, rfl, scan_symbol pos s hr⟩

/-- Terms behind the first one as they are printed. -/
def moreText (ts : List SignedTerm) : List Char := ts.flatMap (·.text.toList)

theorem moreText_cons (t : SignedTerm) (ts : List SignedTerm) :
    moreText (t :: ts) = t.sign.text.toList ++ (t.term.text.toList ++ moreText ts) := by
  simp [moreText, SignedTerm.text]

theorem ends_moreText (ts : List SignedTerm) : Ends (moreText ts) := by
  rcases ts with _ | ⟨⟨sign, t⟩, ts⟩
  · exact Token.ends_nil
  · obtain ⟨c, hc⟩ : ∃ c, sign.text.toList = [' ', c, ' '] := by
      cases sign with
      | plus => exact ⟨'+', rfl⟩
      | minus => exact ⟨'-', rfl⟩
    rw [moreText_cons, hc]
    exact Token.ends_cons rfl

/-- **Printed terms are a split of their tokens**, one operator and one term after the other. -/
theorem scan_moreText (ts : List SignedTerm) (hp : ∀ t ∈ ts, t.term.Positive) :
    ∀ pos, ∃ more : List (Spanned Sign × TermTree), (∀ p ∈ more, p.2.Legal) ∧
      Tree.moreTerms more = ts ∧ scanFrom pos (moreText ts) = Tree.moreTokens more := by
  induction ts with
  | nil => exact fun pos => ⟨[], by simp, rfl, Token.scanFrom_nil pos⟩
  | cons t ts ih =>
    intro pos
    obtain ⟨sign, term⟩ := t
    have hterm : term.Positive := hp ⟨sign, term⟩ List.mem_cons_self
    obtain ⟨tree, hl, rfl, hscan⟩ := scan_term (pos + 3) hterm (ends_moreText ts)
    obtain ⟨more, hlegal, hmore, hrest⟩ := ih (fun t ht => hp t (List.mem_cons_of_mem _ ht))
      (pos + 3 + byteLength tree.term.text.toList)
    refine ⟨(⟨sign, .ofPiece (pos + 1) [' ']⟩, tree) :: more, ?_, ?_, ?_⟩
    · intro p hmem
      rcases List.mem_cons.1 hmem with rfl | hmem
      · exact hl
      · exact hlegal p hmem
    · rw [← hmore]; rfl
    · rw [moreText_cons, scan_sign, hscan, hrest]; rfl

theorem text_toList (t : SignedTerm) (ts : List SignedTerm) :
    (Formula.mk (t :: ts)).text.toList = t.term.text.toList ++ moreText ts := by
  simp [Formula.text, moreText, List.flatMap_map]

/-- **A well-formed formula is read from its own text.** -/
theorem parse_text {f : Formula} (h : f.WellFormed) : parse f.text = .ok f := by
  obtain ⟨_ | ⟨⟨sign, first⟩, ts⟩⟩ := f
  · cases h.starts
  · cases h.starts
    obtain ⟨tree, hl, hterm, hscan⟩ :=
      scan_term 0 (h.positive _ List.mem_cons_self) (ends_moreText ts)
    obtain ⟨more, hlegal, hmore, hrest⟩ := scan_moreText ts
      (fun t ht => h.positive t (List.mem_cons_of_mem _ ht)) (0 + byteLength first.text.toList)
    refine parse_eq_ok.2 (readTerms_eq_ok_iff.2 ⟨⟨tree, more⟩, ⟨hl, hlegal⟩, ?_, ?_⟩)
    · rw [text_toList, Token.scan, hscan, hrest]; rfl
    · rw [Tree.formula, hterm, hmore]

/-- **The formulas that can be written** are the well-formed ones: each is read from its own text,
and no other formula is read from any text. Printing what was read and reading it again gives the
same formula, and no two of these formulas are printed the same. -/
theorem printed_formulas :
    (∀ f : Formula, (parse f.text = .ok f ↔ f.WellFormed) ∧
      ((∃ text, parse text = .ok f) ↔ f.WellFormed)) ∧
    (∀ (text : String) (f : Formula), parse text = .ok f → parse f.text = parse text) ∧
    ∀ f g : Formula, f.WellFormed → g.WellFormed → f ≠ g → f.text ≠ g.text := by
  refine ⟨?_, ?_, ?_⟩
  · intro f
    refine ⟨⟨wellFormed_of_parse, parse_text⟩, ?_, fun h => ⟨f.text, parse_text h⟩⟩
    rintro ⟨text, h⟩
    exact wellFormed_of_parse h
  · intro text f h
    rw [h, parse_text (wellFormed_of_parse h)]
  · intro f g hf hg hne htext
    have heq : (.ok f : Except ParseError Formula) = .ok g := by
      rw [← parse_text hf, htext, parse_text hg]
    exact hne (Except.ok.inj heq)

/-- `4d8+MOD` is printed with blanks, which no other formula is, and is read from that text too. -/
theorem printed_formulas_damage :
    parse "4d8+MOD" = .ok ⟨[⟨.plus, .dice ⟨4, 8, none⟩⟩, ⟨.plus, .symbol .modifier⟩]⟩ ∧
    parse (Formula.text ⟨[⟨.plus, .dice ⟨4, 8, none⟩⟩, ⟨.plus, .symbol .modifier⟩]⟩) =
      parse "4d8+MOD" ∧
    Formula.text ⟨[⟨.plus, .dice ⟨4, 8, none⟩⟩, ⟨.plus, .symbol .modifier⟩]⟩ ≠
      Formula.text ⟨[⟨.plus, .dice ⟨4, 8, none⟩⟩]⟩ := by
  have hsum : parse "4d8+MOD" =
      .ok ⟨[⟨.plus, .dice ⟨4, 8, none⟩⟩, ⟨.plus, .symbol .modifier⟩]⟩ := by decide +kernel
  have hroll : parse "4d8" = .ok ⟨[⟨.plus, .dice ⟨4, 8, none⟩⟩]⟩ := by decide +kernel
  exact ⟨hsum, printed_formulas.2.1 _ _ hsum,
    printed_formulas.2.2 _ _ (wellFormed_of_parse hsum) (wellFormed_of_parse hroll) (by decide)⟩

end Formula

end Rulebook
