import Mathlib.Data.List.Chain
import Rulebook.Proofs.Outcome
import Rulebook.Proofs.Text.Piece
import Rulebook.Template.Segment

/-!
# How a text is cut into segments

* `Segment.Cut`: segments as the scanner leaves them: a literal run is not empty and opens no
  directive, and a body closes none.
* `Segment.CutInto`: segments that make up a text, each one of these, no two literal runs neighbours.
* `scanFrom_eq_ok_iff`: **the segments of a text are the only ones that it can be cut into.**
* `Dangles`, `FirstDangling`: an opening of a text that has no close behind it, and the first one.
* `scanFrom_eq_error_iff`: **a text has no segments if an opening of it dangles**, and the first such
  opening is reported.
-/

namespace Rulebook.Template

/-- What a directive starts with. -/
def opening : List Char := ['%', '{']

/-! ## Openings and closes -/

theorem splitOpen_none {cs run : List Char} (h : splitOpen cs = (run, none)) : run = cs := by
  fun_induction splitOpen cs generalizing run with
  | case1 => cases h; rfl
  | case2 cs => cases h
  | case3 c cs _ run' rest' he ih =>
    cases h
    rw [ih he]

theorem splitOpen_run {cs run : List Char} {rest : Option (List Char)}
    (h : splitOpen cs = (run, rest)) : run <+: cs := by
  cases rest with
  | none => exact (splitOpen_none h) ▸ List.prefix_refl run
  | some rest => exact ⟨_, (splitOpen_rest h).symm⟩

theorem splitOpen_cons {c : Char} {cs : List Char} (h : ¬ opening <+: c :: cs) :
    splitOpen (c :: cs) = (c :: (splitOpen cs).1, (splitOpen cs).2) := by
  rw [splitOpen]
  rintro cs' rfl rfl
  exact h ⟨cs', rfl⟩

/-- No opening of a text starts before the first one. -/
theorem splitOpen_first {cs run before inside : List Char} {rest : Option (List Char)}
    (h : splitOpen cs = (run, rest)) (hcs : cs = before ++ '%' :: '{' :: inside) :
    run <+: before := by
  fun_induction splitOpen cs generalizing run rest before with
  | case1 => cases before <;> cases hcs
  | case2 cs =>
    cases h
    exact List.nil_prefix
  | case3 c cs hopen run' rest' he ih =>
    cases h
    cases before with
    | nil =>
      cases hcs
      exact absurd rfl (hopen _ rfl)
    | cons d before =>
      cases hcs
      exact List.cons_prefix_cons.2 ⟨rfl, ih he rfl⟩

/-- **The text before the first opening has none.** -/
theorem splitOpen_plain {cs run : List Char} {rest : Option (List Char)}
    (h : splitOpen cs = (run, rest)) : ¬ opening <:+: run := by
  rintro ⟨before, after, hrun⟩
  obtain ⟨tail, rfl⟩ := splitOpen_run h
  -- an opening in the run would be an earlier one
  have hearlier : run ++ tail = before ++ '%' :: '{' :: (after ++ tail) := by
    rw [← hrun]
    simp [opening]
  have hle := (splitOpen_first h hearlier).length_le
  rw [← hrun] at hle
  simp only [opening, List.length_append, List.length_cons, List.length_nil] at hle
  omega

theorem splitOpen_append {run : List Char} (h : ¬ opening <:+: run) (rest : List Char) :
    splitOpen (run ++ '%' :: '{' :: rest) = (run, some rest) := by
  induction run with
  | nil => rfl
  | cons c cs ih =>
    rw [List.infix_cons_iff, not_or] at h
    have hstart : ¬ opening <+: c :: (cs ++ '%' :: '{' :: rest) := by
      rintro ⟨tail, htail⟩
      cases cs with
      | nil => cases htail
      | cons d ds =>
        cases htail
        exact h.1 ⟨ds, rfl⟩
    rw [List.cons_append, splitOpen_cons hstart, ih h.2]

theorem splitOpen_of_plain {run : List Char} (h : ¬ opening <:+: run) :
    splitOpen run = (run, none) := by
  cases hsplit : splitOpen run with
  | mk run' rest =>
    cases rest with
    | none => rw [splitOpen_none hsplit]
    | some rest => exact absurd ⟨run', rest, by rw [splitOpen_rest hsplit]; simp [opening]⟩ h

theorem splitClose_none {cs body : List Char} (h : splitClose cs = (body, none)) : body = cs := by
  fun_induction splitClose cs generalizing body with
  | case1 => cases h; rfl
  | case2 cs => cases h
  | case3 c cs _ body' rest' he ih =>
    cases h
    rw [ih he]

/-- **The text before the first close has none.** -/
theorem splitClose_plain {cs body : List Char} {rest : Option (List Char)}
    (h : splitClose cs = (body, rest)) : '}' ∉ body := by
  fun_induction splitClose cs generalizing body rest with
  | case1 => cases h; exact List.not_mem_nil
  | case2 cs => cases h; exact List.not_mem_nil
  | case3 c cs hclose body' rest' he ih =>
    cases h
    rw [List.mem_cons, not_or]
    exact ⟨fun hc => hclose hc.symm, ih he⟩

theorem splitClose_append {body : List Char} (h : '}' ∉ body) (rest : List Char) :
    splitClose (body ++ '}' :: rest) = (body, some rest) := by
  induction body with
  | nil => rfl
  | cons c cs ih =>
    rw [List.mem_cons, not_or] at h
    rw [List.cons_append, splitClose, ih h.2]
    exact fun hc => h.1 hc.symm

/-! ## Segments -/

namespace Segment

/-- Whether a segment is a literal run. -/
def isLiteral : Segment → Bool
  | literal _ => true
  | directive _ => false

/-- **A segment as the scanner leaves it.** -/
inductive Cut : Segment → Prop where
  | literal {run : List Char} (nonempty : run ≠ []) (plain : ¬ opening <:+: run) :
      Cut (.literal run)
  | directive {body : List Char} (closed : '}' ∉ body) : Cut (.directive body)

theorem Cut.text_ne_nil {s : Segment} (h : s.Cut) : s.text ≠ [] := by
  cases h with
  | literal nonempty plain => exact nonempty
  | directive closed => exact List.cons_ne_nil _ _

theorem Cut.not_mem_body {body : List Char} (h : (Segment.directive body).Cut) : '}' ∉ body := by
  cases h with
  | directive closed => exact closed

theorem consLiteral_of_ne_nil {run : List Char} (h : run ≠ []) (segments : List Segment) :
    consLiteral run segments = literal run :: segments :=
  if_neg (by simpa using h)

theorem join_consLiteral (run : List Char) (segments : List Segment) :
    (consLiteral run segments).flatMap text = run ++ segments.flatMap text := by
  unfold consLiteral
  cases run <;> rfl

theorem cut_consLiteral {run : List Char} {segments : List Segment} (hrun : ¬ opening <:+: run)
    (h : ∀ s ∈ segments, s.Cut) : ∀ s ∈ consLiteral run segments, s.Cut := by
  unfold consLiteral
  split
  · exact h
  · rename_i hne
    exact List.forall_mem_cons.2 ⟨.literal (by simpa using hne) hrun, h⟩

/-- A literal run in front of segments that start with none. -/
theorem chain_consLiteral {run : List Char} {segments : List Segment}
    (hhead : ∀ s ∈ segments.head?, s.isLiteral = false)
    (h : segments.IsChain fun a b => ¬ (a.isLiteral ∧ b.isLiteral)) :
    (consLiteral run segments).IsChain fun a b => ¬ (a.isLiteral ∧ b.isLiteral) := by
  unfold consLiteral
  split
  · exact h
  · refine List.isChain_cons.2 ⟨?_, h⟩
    rintro s hs ⟨-, hs'⟩
    rw [hhead s hs] at hs'
    cases hs'

/-- **Segments that a text is cut into**: they make up the text, each as it has to be, and no two
literal runs are neighbours. -/
structure CutInto (text : List Char) (segments : List Segment) : Prop where
  joined : segments.flatMap Segment.text = text
  cut : ∀ s ∈ segments, s.Cut
  apart : segments.IsChain fun a b => ¬ (a.isLiteral ∧ b.isLiteral)

/-- The segments of a text are some that it is cut into. -/
theorem scanFrom_sound {pos : Nat} {text : List Char} {segments : List Segment}
    (h : scanFrom pos text = .ok segments) : CutInto text segments := by
  fun_induction scanFrom pos text generalizing segments with
  | case1 pos text run hopen =>
    cases h
    refine ⟨?_, cut_consLiteral (splitOpen_plain hopen) (List.forall_mem_nil _), ?_⟩
    · rw [join_consLiteral, List.flatMap_nil, List.append_nil, splitOpen_none hopen]
    · exact chain_consLiteral (by simp) List.isChain_nil
  | case2 pos text run inside hopen start body hclose => cases h
  | case3 pos text run inside hopen start body rest hclose =>
    rename_i ih
    obtain ⟨more, hmore, hsegments⟩ := bind_eq_ok h
    cases hsegments
    obtain ⟨hjoin, hcut, hchain⟩ := ih hmore
    have hbody : (directive body).Cut := .directive (splitClose_plain hclose)
    refine ⟨?_, ?_, ?_⟩
    · rw [join_consLiteral, List.flatMap_cons, hjoin, splitOpen_rest hopen, splitClose_rest hclose]
      simp [Segment.text]
    · exact cut_consLiteral (splitOpen_plain hopen) (List.forall_mem_cons.2 ⟨hbody, hcut⟩)
    · refine chain_consLiteral (by rintro s hs; cases hs; rfl) (List.isChain_cons.2 ⟨?_, hchain⟩)
      rintro s - ⟨hs, -⟩
      cases hs

/-- A text without an opening is one literal run. -/
theorem scanFrom_literal (pos : Nat) {run : List Char} (h : ¬ opening <:+: run) :
    scanFrom pos run = .ok (consLiteral run []) := by
  rw [scanFrom]
  split
  · next heq =>
    rw [splitOpen_of_plain h] at heq
    cases heq
    rfl
  · next heq =>
    rw [splitOpen_of_plain h] at heq
    cases heq

/-- The first directive of a text, and the literal run in front of it. -/
theorem scanFrom_directive (pos : Nat) {run body : List Char} (hrun : ¬ opening <:+: run)
    (hbody : '}' ∉ body) (rest : List Char) :
    scanFrom pos (run ++ (directive body).text ++ rest) =
      (fun segments => consLiteral run (directive body :: segments)) <$>
        scanFrom (pos + byteLength run + byteLength (directive body).text) rest := by
  have htext : run ++ (directive body).text ++ rest = run ++ '%' :: '{' :: (body ++ '}' :: rest) := by
    simp [Segment.text]
  rw [htext, scanFrom]
  split
  · next heq =>
    rw [splitOpen_append hrun] at heq
    cases heq
  · next heq =>
    rw [splitOpen_append hrun] at heq
    cases heq
    split
    · next heq =>
      rw [splitClose_append hbody] at heq
      cases heq
    · next heq =>
      rw [splitClose_append hbody] at heq
      cases heq
      rfl

theorem CutInto.tail {text : List Char} {s : Segment} {segments : List Segment}
    (h : CutInto text (s :: segments)) : CutInto (segments.flatMap Segment.text) segments :=
  ⟨rfl, fun x hx => h.cut x (List.mem_cons_of_mem s hx), h.apart.tail⟩

/-- **Segments that a text is cut into are found**: a directive with the literal run in front of it,
if there is one, and then the segments behind it. -/
theorem scanFrom_complete {text : List Char} :
    ∀ {segments : List Segment} {pos : Nat}, CutInto text segments →
      scanFrom pos text = .ok segments
  | [], pos, h => by
    cases h.joined
    exact scanFrom_literal pos (by decide)
  | directive body :: segments, pos, h => by
    have hbody := (h.cut _ List.mem_cons_self).not_mem_body
    have hscan := scanFrom_directive pos (show ¬ opening <:+: [] by decide) hbody
      (segments.flatMap Segment.text)
    rw [scanFrom_complete h.tail] at hscan
    rw [← h.joined]
    exact hscan
  | [literal run], pos, h => by
    obtain ⟨hrun, hplain⟩ := h.cut _ List.mem_cons_self
    rw [← h.joined, List.flatMap_singleton, Segment.text, scanFrom_literal pos hplain,
      consLiteral_of_ne_nil hrun]
  | literal run :: directive body :: segments, pos, h => by
    obtain ⟨hrun, hplain⟩ := h.cut _ List.mem_cons_self
    have hbody := (h.tail.cut _ List.mem_cons_self).not_mem_body
    have hscan := scanFrom_directive pos hplain hbody (segments.flatMap Segment.text)
    rw [scanFrom_complete h.tail.tail] at hscan
    rw [← h.joined, List.flatMap_cons, List.flatMap_cons, ← List.append_assoc]
    rw [← consLiteral_of_ne_nil hrun]
    exact hscan
  | literal run :: literal run' :: segments, pos, h =>
    absurd ⟨rfl, rfl⟩ (List.isChain_cons_cons.1 h.apart).1

/-- **The segments of a text** are the only ones that it can be cut into. -/
theorem scanFrom_eq_ok_iff {pos : Nat} {text : List Char} {segments : List Segment} :
    scanFrom pos text = .ok segments ↔ CutInto text segments :=
  ⟨scanFrom_sound, scanFrom_complete⟩

end Segment

/-! ## Openings without a close -/

/-- **An opening that dangles**: no close stands anywhere behind it. -/
structure Dangles (text before inside : List Char) : Prop where
  opened : text = before ++ '%' :: '{' :: inside
  unclosed : '}' ∉ inside

/-- **The first opening that dangles.** -/
structure FirstDangling (text before inside : List Char) : Prop where
  dangles : Dangles text before inside
  first : ∀ earlier inside', Dangles text earlier inside' → before <+: earlier

/-- An opening that dangles starts behind every close. -/
theorem dangles_behind {closed rest before inside : List Char} :
    Dangles (closed ++ '}' :: rest) before inside ↔
      ∃ before', before = closed ++ '}' :: before' ∧ Dangles rest before' inside := by
  constructor
  · rintro ⟨hopened, hunclosed⟩
    rw [← List.singleton_append, ← List.append_assoc] at hopened
    rcases List.append_eq_append_iff.1 hopened with ⟨mid, hbefore, hrest⟩ | ⟨mid, hclosed, hmid⟩
    · exact ⟨mid, by simpa using hbefore, hrest, hunclosed⟩
    · -- the close would stand at the opening or behind it
      rcases List.eq_nil_or_concat' mid with rfl | ⟨init, c, rfl⟩
      · exact ⟨[], by simpa using hclosed.symm, hmid.symm, hunclosed⟩
      · have hlast : ['}'] = [c] :=
          List.append_inj_right' (hclosed.trans (List.append_assoc before init [c]).symm) rfl
        cases hlast
        have hmem : '}' ∈ '%' :: '{' :: inside := by rw [hmid]; simp
        exact absurd (by simpa using hmem) hunclosed
  · rintro ⟨before', rfl, rfl, hunclosed⟩
    exact ⟨by simp, hunclosed⟩

/-- So the first one does, and is the first one behind it. -/
theorem firstDangling_behind {closed rest before inside : List Char} :
    FirstDangling (closed ++ '}' :: rest) before inside ↔
      ∃ before', before = closed ++ '}' :: before' ∧ FirstDangling rest before' inside := by
  constructor
  · rintro ⟨hdangles, hfirst⟩
    obtain ⟨before', rfl, hdangles'⟩ := dangles_behind.1 hdangles
    refine ⟨before', rfl, hdangles', fun earlier inside' h => ?_⟩
    have hle := hfirst (closed ++ '}' :: earlier) inside' (dangles_behind.2 ⟨earlier, rfl, h⟩)
    simpa using (List.prefix_append_right_inj closed).1 hle
  · rintro ⟨before', rfl, hdangles, hfirst⟩
    refine ⟨dangles_behind.2 ⟨before', rfl, hdangles⟩, fun earlier inside' h => ?_⟩
    obtain ⟨earlier', rfl, h'⟩ := dangles_behind.1 h
    simpa using hfirst earlier' inside' h'

/-- An opening that dangles in a text without an earlier opening is the first. -/
theorem firstDangling_of_split {text run inside : List Char}
    (hopen : splitOpen text = (run, some inside)) (hclose : '}' ∉ inside) :
    FirstDangling text run inside :=
  ⟨⟨splitOpen_rest hopen, hclose⟩, fun _ _ h => splitOpen_first hopen h.opened⟩

/-- There is one first opening that dangles at most. -/
theorem FirstDangling.unique {text before inside before' inside' : List Char}
    (h : FirstDangling text before inside) (h' : FirstDangling text before' inside') :
    before = before' ∧ inside = inside' := by
  have hbefore : before = before' :=
    (h.first _ _ h'.dangles).eq_of_length_le (h'.first _ _ h.dangles).length_le
  subst hbefore
  have htext := h.dangles.opened.symm.trans h'.dangles.opened
  simpa using htext

/-- Where an opening dangles there is a first one that does. -/
theorem exists_firstDangling {text before inside : List Char} (h : Dangles text before inside) :
    ∃ before' inside', FirstDangling text before' inside' := by
  classical
  have hlength : ∃ n before inside, Dangles text before inside ∧ before.length = n :=
    ⟨_, before, inside, h, rfl⟩
  obtain ⟨first, inside', hfirst, hmin⟩ := Nat.find_spec hlength
  refine ⟨first, inside', hfirst, fun earlier after hearlier => ?_⟩
  refine List.prefix_of_prefix_length_le ⟨_, hfirst.opened.symm⟩ ⟨_, hearlier.opened.symm⟩ ?_
  rw [hmin]
  exact Nat.find_min' hlength ⟨earlier, after, hearlier, rfl⟩

/-- **A text has no segments if an opening of it dangles.** It is the first such one that is reported,
with the rest of the text. -/
theorem Segment.scanFrom_eq_error_iff {pos : Nat} {text : List Char} {e : ParseError} :
    scanFrom pos text = .error e ↔
      ∃ before inside, FirstDangling text before inside ∧
        e = .unterminated (.ofPiece (pos + byteLength before) ('%' :: '{' :: inside))
          (String.ofList ('%' :: '{' :: inside)) := by
  fun_induction scanFrom pos text with
  | case1 pos text run hopen =>
    refine ⟨nofun, ?_⟩
    rintro ⟨before, inside, ⟨⟨hopened, -⟩, -⟩, -⟩
    -- the opening would start behind the whole text
    have hle := (splitOpen_first hopen hopened).length_le
    rw [splitOpen_none hopen, hopened] at hle
    simp only [List.length_append, List.length_cons] at hle
    omega
  | case2 pos text run inside hopen start body hclose opened =>
    have hbody := splitClose_plain hclose
    rw [splitClose_none hclose] at hbody
    have hfirst := firstDangling_of_split hopen hbody
    constructor
    · intro h
      cases h
      exact ⟨run, inside, hfirst, rfl⟩
    · rintro ⟨before, inside', hfirst', rfl⟩
      obtain ⟨rfl, rfl⟩ := hfirst.unique hfirst'
      rfl
  | case3 pos text run inside hopen start body rest hclose ih =>
    have htext : text = (run ++ '%' :: '{' :: body) ++ '}' :: rest := by
      rw [splitOpen_rest hopen, splitClose_rest hclose]
      simp
    have hstart : ∀ before, pos + byteLength (run ++ '%' :: '{' :: body ++ '}' :: before) =
        start + byteLength (directive body).text + byteLength before := by
      intro before
      simp [Segment.text, start, Nat.add_assoc]
    have hscan : (do
        let segments ← scanFrom (start + byteLength (directive body).text) rest
        return consLiteral run (directive body :: segments)) = .error e ↔
          scanFrom (start + byteLength (directive body).text) rest = .error e := by
      cases scanFrom (start + byteLength (directive body).text) rest with
      | error e' => exact Iff.rfl
      | ok segments => exact ⟨nofun, nofun⟩
    rw [hscan, ih, htext]
    simp only [firstDangling_behind]
    constructor
    · rintro ⟨before, inside', hfirst, rfl⟩
      exact ⟨_, inside', ⟨before, rfl, hfirst⟩, by rw [hstart]⟩
    · rintro ⟨-, inside', ⟨before, rfl, hfirst⟩, rfl⟩
      exact ⟨before, inside', hfirst, by rw [hstart]⟩

end Rulebook.Template
