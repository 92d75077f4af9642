import Rulebook.Proofs.Formula.Lossless

/-!
# Texts side by side

Tokens are cut from the left, so the tokens of a text say little about those of its parts. They do
where the text is cut between two tokens, and where the second part goes on with none of the first.

* `goesOn`: the characters that a token goes on with. `scanFrom_append`: **a text that does not go on
  with the last token in front of it** keeps its own tokens, and leaves that one as it is.
* `IsMark`: tokens of one fixed character. `scanFrom_append_of_isMark`: next to one of them nothing is
  gone on with.
* `scan_append_single`: a character that nothing goes on with, between two texts.
* `Parts`: the tokens before a place and those behind it. `Parts.scan`: **they are the tokens of the
  text before the place, and of the text behind it.**
* `parts_before`: a place in front of a token.
-/

namespace Rulebook.Token

/-! ## What a token goes on with -/

/-- The characters that a token goes on with if they stand right behind it. -/
def goesOn : Token → Char → Bool
  | int _ => Char.isDigit
  | symbol _ => isSymbolPart
  | unknown text => text.toList.head?.elim (fun _ => false) continues
  | die | plus | minus | times => fun _ => false

/-- A token goes on with what its first character goes on with. -/
theorem Reads.goesOn {t : Token} {c : Char} {cs : List Char} (h : Reads t (c :: cs)) :
    t.goesOn = continues c := by
  cases h with
  | int _ hdigit _ => exact (continues_of_isDigit (hdigit c List.mem_cons_self)).symm
  | large => simp [Token.goesOn]
  | symbol hupper => exact (continues_of_isUpper hupper).symm
  | die => rfl
  | plus => rfl
  | minus => rfl
  | times hspelling =>
    simp only [List.mem_cons, List.not_mem_nil, or_false] at hspelling
    rcases hspelling with rfl | rfl | rfl <;> rfl
  | unmatched => simp [Token.goesOn]

theorem isSymbolPart_of_goesOn {t : Token} {d : Char} (h : t.goesOn d = true) :
    isSymbolPart d = true := by
  cases t with
  | int n => simp [isSymbolPart, show d.isDigit = true from h]
  | symbol name => exact h
  | unknown text =>
    simp only [goesOn] at h
    cases hhead : text.toList.head? with
    | none => simp [hhead] at h
    | some c =>
      rw [hhead] at h
      exact isSymbolPart_of_continues h
  | die => cases h
  | plus => cases h
  | minus => cases h
  | times => cases h

/-! ## A text behind another one -/

/-- **A text that does not go on with the last token in front of it** keeps its own tokens, and leaves
that one as it is. -/
theorem scanFrom_append {pos : Nat} {a b : List Char}
    (h : ∀ t ∈ (scanFrom pos a).getLast?, ∀ d ∈ b.head?, t.value.goesOn d = false) :
    scanFrom pos (a ++ b) = scanFrom pos a ++ scanFrom (pos + byteLength a) b := by
  fun_induction scanFrom pos a with
  | case1 pos => simp
  | case2 pos c cs hc ih =>
    rw [List.cons_append, scanFrom_spacing hc, ih h, byteLength_cons, Nat.add_assoc]
  | case3 pos c cs hc piece ih =>
    have hcs : ∀ d ∈ cs.takeWhile (continues c), continues c d = true := fun d hd =>
      List.mem_takeWhile_imp hd
    have hreads := ofPiece_takeWhile_reads hc cs
    -- the piece ends where it did, at the end of the first text or before it
    have hstop : ∀ d ∈ (cs.dropWhile (continues c) ++ b).head?, continues c d = false := by
      intro d hd
      cases hrest : cs.dropWhile (continues c) with
      | nil =>
        rw [hrest, List.nil_append] at hd
        rw [hrest, scanFrom_nil, List.getLast?_singleton] at h
        rw [← hreads.goesOn]
        exact h _ rfl d hd
      | cons e rest =>
        have hnot := piece_stops c cs
        rw [hrest] at hnot hd
        exact hnot d hd
    have hlast : ∀ t ∈ (scanFrom (pos + byteLength piece) (cs.dropWhile (continues c))).getLast?,
        ∀ d ∈ b.head?, t.value.goesOn d = false := by
      intro t ht
      refine h t ?_
      rw [List.getLast?_cons, ht]
      rfl
    rw [← piece_append c cs, List.append_assoc,
      scanFrom_piece (Bool.eq_false_iff.2 hc) hcs hstop, ih hlast, byteLength_append, Nat.add_assoc]
    rfl

/-- A text that goes on with no token at all. -/
theorem scanFrom_append_of_ends {pos : Nat} {a b : List Char} (h : Ends b) :
    scanFrom pos (a ++ b) = scanFrom pos a ++ scanFrom (pos + byteLength a) b := by
  refine scanFrom_append fun t _ d hd => ?_
  rw [Bool.eq_false_iff]
  intro hgoes
  have hpart := isSymbolPart_of_goesOn hgoes
  rw [h d hd] at hpart
  cases hpart

/-- A token of one fixed character: `d` and the operators. -/
def IsMark : Token → Prop
  | die | plus | minus | times => True
  | int _ | symbol _ | unknown _ => False

theorem goesOn_of_isMark {t : Token} (h : t.IsMark) (d : Char) : t.goesOn d = false := by
  cases t with
  | int n => cases h
  | symbol name => cases h
  | unknown text => cases h
  | die => rfl
  | plus => rfl
  | minus => rfl
  | times => rfl

/-- Nothing goes on with the character of a mark. -/
theorem Reads.isSymbolPart_of_isMark {t : Token} {c : Char} {cs : List Char}
    (h : Reads t (c :: cs)) (hmark : t.IsMark) : isSymbolPart c = false := by
  cases h with
  | int => cases hmark
  | large => cases hmark
  | symbol => cases hmark
  | unmatched => cases hmark
  | die => rfl
  | plus => rfl
  | minus => rfl
  | times hspelling =>
    simp only [List.mem_cons, List.not_mem_nil, or_false] at hspelling
    rcases hspelling with rfl | rfl | rfl <;> rfl

/-- A text whose first token is a mark goes on with no token. -/
theorem ends_of_isMark {pos : Nat} {text : List Char} {u : Spanned Token}
    (hu : u ∈ (scanFrom pos text).head?) (hmark : u.value.IsMark) : Ends text := by
  fun_cases scanFrom pos text with
  | case1 => exact ends_nil
  | case2 c cs hc => exact ends_cons (isSymbolPart_of_isSpacing hc)
  | case3 c cs hc piece =>
    rw [scanFrom, if_neg hc] at hu
    cases hu
    exact ends_cons ((ofPiece_takeWhile_reads hc cs).isSymbolPart_of_isMark hmark)

/-- **Two texts keep their tokens side by side** if the last token of the first one or the first token
of the second one is a mark. -/
theorem scanFrom_append_of_isMark {pos : Nat} {a b : List Char}
    (h : ∀ t ∈ (scanFrom pos a).getLast?, ∀ u ∈ (scanFrom (pos + byteLength a) b).head?,
      t.value.IsMark ∨ u.value.IsMark) :
    scanFrom pos (a ++ b) = scanFrom pos a ++ scanFrom (pos + byteLength a) b := by
  cases hb : scanFrom (pos + byteLength a) b with
  | nil => rw [← hb, scanFrom_append_of_ends (ends_of_spacing (scanFrom_eq_nil_iff.1 hb))]
  | cons u more =>
    have hu : u ∈ (scanFrom (pos + byteLength a) b).head? := by rw [hb]; rfl
    rw [← hb]
    by_cases hmark : u.value.IsMark
    · exact scanFrom_append_of_ends (ends_of_isMark hu hmark)
    · refine scanFrom_append fun t ht d _ => ?_
      exact goesOn_of_isMark ((h t ht u hu).resolve_right hmark) d

theorem scan_append_of_ends (a : List Char) {b : List Char} (h : Ends b) :
    scan (a ++ b) = scan a ++ scanFrom (byteLength a) b := by
  rw [scan, scanFrom_append_of_ends h, Nat.zero_add, scan]

/-- **A character that nothing goes on with** is a token of its own, whatever stands around it. -/
theorem scan_append_single {c : Char} (hspacing : isSpacing c = false)
    (hpart : isSymbolPart c = false) (a b : List Char) :
    scan (a ++ c :: b) = scan a ++ ⟨ofPiece [c], .ofPiece (byteLength a) [c]⟩ ::
      scanFrom (byteLength a + byteLength [c]) b := by
  have hkinds := hpart
  simp only [isSymbolPart, Bool.or_eq_false_iff] at hkinds
  obtain ⟨⟨hupper, hdigit⟩, -⟩ := hkinds
  rw [scan_append_of_ends a (ends_cons hpart), scanFrom_single hspacing hdigit hupper]

theorem scan_append_of_isMark {a b : List Char}
    (h : ∀ t ∈ (scan a).getLast?, ∀ u ∈ (scanFrom (byteLength a) b).head?,
      t.value.IsMark ∨ u.value.IsMark) :
    scan (a ++ b) = scan a ++ scanFrom (byteLength a) b := by
  rw [← Nat.zero_add (byteLength a)] at h ⊢
  exact scanFrom_append_of_isMark h

/-! ## A place between two tokens -/

/-- **The tokens before a place in a text, and those behind it.** No token reaches over the place. -/
structure Parts (text : List Char) (pos : Nat) (before behind : List (Spanned Token)) : Prop where
  tokens : scan text = before ++ behind
  stops : ∀ t ∈ before, t.span.stop ≤ pos
  starts : ∀ t ∈ behind, pos ≤ t.span.start

/-- A piece that ends with a text, or before it, is not changed by what stands behind the text. -/
theorem takeWhile_append_of_le {p : Char → Bool} {cs b : List Char}
    (h : byteLength ((cs ++ b).takeWhile p) ≤ byteLength cs) :
    (cs ++ b).takeWhile p = cs.takeWhile p ∧ (cs ++ b).dropWhile p = cs.dropWhile p ++ b := by
  have htake : (cs ++ b).takeWhile p = cs.takeWhile p := by
    rw [List.takeWhile_append] at h ⊢
    split
    · rename_i hall
      rw [if_pos hall, byteLength_append] at h
      have hnone : b.takeWhile p = [] := byteLength_eq_zero (by omega)
      rw [hnone, List.append_nil]
      exact ((List.takeWhile_prefix p).eq_of_length hall).symm
    · rfl
  refine ⟨htake, ?_⟩
  have hsplit : (cs ++ b).takeWhile p ++ (cs ++ b).dropWhile p =
      cs.takeWhile p ++ (cs.dropWhile p ++ b) := by
    rw [List.takeWhile_append_dropWhile, ← List.append_assoc, List.takeWhile_append_dropWhile]
  rw [htake] at hsplit
  exact List.append_cancel_left hsplit

theorem scanFrom_parts {pos : Nat} {a b : List Char} {before behind : List (Spanned Token)}
    (htokens : scanFrom pos (a ++ b) = before ++ behind)
    (hstops : ∀ t ∈ before, t.span.stop ≤ pos + byteLength a)
    (hstarts : ∀ t ∈ behind, pos + byteLength a ≤ t.span.start) :
    scanFrom pos a = before ∧ scanFrom (pos + byteLength a) b = behind := by
  fun_induction scanFrom pos a generalizing before with
  | case1 pos =>
    -- tokens have some length, so none of them stops at the start of the text
    cases before with
    | nil => exact ⟨rfl, htokens⟩
    | cons t before =>
      have hstop := hstops t List.mem_cons_self
      have hmem : t ∈ scanFrom pos b := by
        rw [List.nil_append] at htokens
        simp [htokens]
      rw [← Nat.zero_add pos, scanFrom_shift] at hmem
      obtain ⟨u, hu, rfl⟩ := List.mem_map.1 hmem
      have hlt := (scan_located b).nonempty u hu
      simp only [Spanned.respan, Span.shift, byteLength_nil] at hstop
      omega
  | case2 pos c cs hc ih =>
    rw [byteLength_cons, ← Nat.add_assoc] at hstops hstarts ⊢
    rw [List.cons_append, scanFrom_spacing hc] at htokens
    exact ih htokens hstops hstarts
  | case3 pos c cs hc piece =>
    rename_i ih
    rw [List.cons_append, scanFrom, if_neg hc] at htokens
    have hpos : 0 < byteLength (c :: cs) := byteLength_pos (List.cons_ne_nil c cs)
    cases before with
    | nil =>
      rw [List.nil_append] at htokens
      have hstart := hstarts _ (htokens ▸ List.mem_cons_self)
      simp only [Span.ofPiece] at hstart
      omega
    | cons t before =>
      obtain ⟨rfl, hmore⟩ := List.cons.inj htokens
      obtain ⟨hstop, hstops⟩ := List.forall_mem_cons.1 hstops
      -- the first token stops within the first text, so it is the same without the second one
      have hle : byteLength ((cs ++ b).takeWhile (continues c)) ≤ byteLength cs := by
        simp only [Span.ofPiece, byteLength_cons] at hstop
        omega
      obtain ⟨htake, hdrop⟩ := takeWhile_append_of_le hle
      have hlength : byteLength (c :: cs) =
          byteLength piece + byteLength (cs.dropWhile (continues c)) := by
        rw [← byteLength_append, piece_append]
      rw [hlength, ← Nat.add_assoc] at hstops hstarts ⊢
      rw [htake, hdrop] at hmore
      obtain ⟨hbefore, hbehind⟩ := ih hmore hstops hstarts
      exact ⟨by rw [hbefore, htake], hbehind⟩

/-- **The tokens before a place are those of the text before it**, and the tokens behind it are those of
the text behind it. -/
theorem Parts.scan {a b : List Char} {before behind : List (Spanned Token)}
    (h : Parts (a ++ b) (byteLength a) before behind) :
    Token.scan a = before ∧ scanFrom (byteLength a) b = behind := by
  have hzero : 0 + byteLength a = byteLength a := Nat.zero_add _
  have hparts := scanFrom_parts h.tokens (hzero.symm ▸ h.stops) (hzero.symm ▸ h.starts)
  rwa [hzero] at hparts

/-- The place in front of a token. -/
theorem parts_before {text : List Char} {t : Spanned Token} {before behind : List (Spanned Token)}
    (h : Token.scan text = before ++ t :: behind) :
    ∃ a b, text = a ++ b ∧ byteLength a = t.span.start ∧
      Parts (a ++ b) (byteLength a) before (t :: behind) := by
  have hlocated := scan_located text
  rw [h] at hlocated
  obtain ⟨-, hordered, hacross⟩ := List.pairwise_append.1 hlocated.ordered
  obtain ⟨a, b, rfl, ha⟩ := (hlocated.within t (by simp)).start_boundary
  refine ⟨a, b, rfl, ha, h, fun u hu => ?_, List.forall_mem_cons.2 ⟨Nat.le_of_eq ha, fun u hu => ?_⟩⟩
  · rw [ha]
    exact hacross u hu t List.mem_cons_self
  · have hlt := hlocated.nonempty t (by simp)
    have hle := List.rel_of_pairwise_cons hordered hu
    omega

end Rulebook.Token
