import Rulebook.Proofs.Formula.Spacing
import Rulebook.Proofs.Template.Directive
import Rulebook.Proofs.Template.Segments
import Rulebook.Template.Basic

/-!
# The nodes of a template tile its text

* `Tiles`: spans that follow one another without a gap. No two of them stop at the same position.
* `Node.Reads`: what a node says about the text at its span.
* `ofSegment_reads`: a node says what its segment is. For a formula this needs that the blanks
  around it, which its source leaves out, are nothing that the formula is read from.
* `readNodes_tiles`, `readNodes_split`: nodes that are read in a row stand in a row. `parse_spans`,
  `parse_reads`: so do those of a template, and each says what stands at its span.
* `parse_tiles`: **the nodes of a template tile its text in normal form, and each says what stands
  at its span.**
-/

namespace Rulebook

/-- **Spans that follow one another without a gap**, from one position to another. None of them is
empty. -/
inductive Tiles : Nat → List Span → Nat → Prop where
  | nil (pos : Nat) : Tiles pos [] pos
  | cons {s : Span} {spans : List Span} {stop : Nat} (nonempty : s.start < s.stop)
      (rest : Tiles s.stop spans stop) : Tiles s.start (s :: spans) stop

theorem Tiles.eq_of_nil {start stop : Nat} (h : Tiles start [] stop) : start = stop := by
  cases h
  rfl

theorem Tiles.tail {start stop : Nat} {s : Span} {spans : List Span}
    (h : Tiles start (s :: spans) stop) : start = s.start ∧ Tiles s.stop spans stop := by
  cases h with
  | cons nonempty rest => exact ⟨rfl, rest⟩

/-- Spans in a row start no earlier than the first of them. -/
theorem Tiles.le_start {start stop : Nat} {spans : List Span} (h : Tiles start spans stop) :
    ∀ s ∈ spans, start ≤ s.start := by
  induction h with
  | nil => simp
  | cons nonempty rest ih =>
    intro s hs
    rcases List.mem_cons.1 hs with rfl | hs
    · exact le_rfl
    · exact (Nat.le_of_lt nonempty).trans (ih s hs)

/-- Spans in a row do not overlap. -/
theorem Tiles.apart {start stop : Nat} {spans : List Span} (h : Tiles start spans stop) :
    spans.Pairwise fun s s' => s.stop ≤ s'.start := by
  induction h with
  | nil => exact List.Pairwise.nil
  | cons nonempty rest ih => exact List.pairwise_cons.2 ⟨rest.le_start, ih⟩

/-- Spans in a row stop behind the position that they start from. -/
theorem Tiles.lt_stop {start stop : Nat} {spans : List Span} (h : Tiles start spans stop) :
    ∀ s ∈ spans, start < s.stop := by
  induction h with
  | nil => simp
  | cons nonempty rest ih =>
    intro s hs
    rcases List.mem_cons.1 hs with rfl | hs
    · exact nonempty
    · exact Nat.lt_trans nonempty (ih s hs)

/-- Spans in a row stop one behind the other. -/
theorem Tiles.stops_ascend {start stop : Nat} {spans : List Span} (h : Tiles start spans stop) :
    spans.Pairwise fun s s' => s.stop < s'.stop := by
  induction h with
  | nil => exact List.Pairwise.nil
  | cons nonempty rest ih => exact List.pairwise_cons.2 ⟨rest.lt_stop, ih⟩

namespace Template

namespace Node

/-- Whether a node is a literal run. -/
def isLiteral : Node → Bool
  | literal _ => true
  | _ => false

/-- **A node and the text that it is read from.** A literal run is this text; it is not empty and
opens no directive. A directive is the text from `%{` to the first `}`: a reference keeps it as it
is written, and a formula keeps what it is read from. -/
inductive Reads : Node → List Char → Prop where
  | literal {run : List Char} (nonempty : run ≠ []) (plain : ¬ opening <:+: run) :
      Reads (.literal (String.ofList run)) run
  | dice {d : DiceDirective} {body : List Char} (closed : '}' ∉ body)
      (inside : d.source.toList <:+: body) (trimmed : trim d.source.toList = d.source.toList)
      (parsed : Formula.parse d.source = .ok d.formula) :
      Reads (.dice d) (Segment.directive body).text
  | ref {r : RefDirective} {body : List Char} (closed : '}' ∉ body)
      (raw : r.raw = String.ofList (Segment.directive body).text) :
      Reads (.ref r) (Segment.directive body).text

end Node

/-! ## One node -/

theorem trim_inside (text : List Char) : trim text <:+: text := by
  obtain ⟨before, after, htext, -⟩ := exists_eq_append_trim text
  exact ⟨before, after, htext.symm⟩

/-- **A directive says what its body is.** The source of a formula is trimmed, and is read as the
same formula as the text with its blanks. -/
theorem ofBody_reads {pos : Nat} {body : List Char} {n : Node} (closed : '}' ∉ body)
    (h : Node.ofBody pos body = .ok n) :
    n.Reads (Segment.directive body).text ∧ n.isLiteral = false := by
  rcases ofBody_cases pos body with ⟨-, he⟩ | ⟨before, word, args, hword, hcases⟩
  · rw [he] at h
    cases h
  have hargs : args <:+: body := by
    rw [← append_of_firstWord? hword, ← List.append_assoc]
    exact (List.suffix_append _ _).isInfix
  rcases hcases with ⟨-, hdice⟩ | ⟨-, href⟩ | ⟨-, -, he⟩
  · rw [hdice] at h
    obtain ⟨d, hd, rfl⟩ := map_eq_ok h
    refine ⟨?_, rfl⟩
    rcases readDice_cases (pos + 2 + byteLength before + byteLength word) args with
      ⟨formula, hformula, hok⟩ | ⟨e, -, he⟩
    · rw [hok] at hd
      cases hd
      have hsource : (String.ofList (trim args)).toList = trim args := String.toList_ofList
      refine .dice closed ?_ ?_ ?_
      · rw [hsource]
        exact (trim_inside args).trans hargs
      · rw [hsource, trim_trim]
      · rw [Formula.parse, hsource]
        exact Formula.parseChars_trim hformula
    · rw [he] at hd
      cases hd
  · rw [href] at h
    obtain ⟨r, hr, rfl⟩ := map_eq_ok h
    exact ⟨.ref closed (readRef_raw hr), rfl⟩
  · rw [he] at h
    cases h

/-- **A node says what its segment is**, and is literal if the segment is. -/
theorem ofSegment_reads {pos : Nat} {s : Segment} {n : Node} (hs : s.Cut)
    (h : Node.ofSegment pos s = .ok n) : n.Reads s.text ∧ n.isLiteral = s.isLiteral := by
  cases hs with
  | literal nonempty plain =>
    cases h
    exact ⟨.literal nonempty plain, rfl⟩
  | directive closed => exact ofBody_reads closed h

/-! ## Nodes in a row -/

theorem readNodes_cons {pos : Nat} {s : Segment} {segments : List Segment}
    {nodes : List (Spanned Node)} (h : readNodes pos (s :: segments) = .ok nodes) :
    ∃ node more, Node.ofSegment pos s = .ok node ∧
      readNodes (pos + byteLength s.text) segments = .ok more ∧
      nodes = ⟨node, .ofPiece pos s.text⟩ :: more := by
  obtain ⟨node, hnode, h⟩ := bind_eq_ok h
  obtain ⟨more, hmore, h⟩ := bind_eq_ok h
  cases h
  exact ⟨node, more, hnode, hmore, rfl⟩

/-- **Nodes that are read in a row stand in a row.** -/
theorem readNodes_tiles {pos : Nat} {segments : List Segment} {nodes : List (Spanned Node)}
    (hcut : ∀ s ∈ segments, s.Cut) (h : readNodes pos segments = .ok nodes) :
    Tiles pos (nodes.map (·.span)) (pos + byteLength (segments.flatMap Segment.text)) := by
  induction segments generalizing pos nodes with
  | nil => cases h; exact .nil pos
  | cons s segments ih =>
    obtain ⟨hs, hsegments⟩ := List.forall_mem_cons.1 hcut
    obtain ⟨node, more, -, hmore, rfl⟩ := readNodes_cons h
    have hrest := ih hsegments hmore
    rw [List.flatMap_cons, byteLength_append, ← Nat.add_assoc]
    exact .cons (s := .ofPiece pos s.text)
      (Nat.lt_add_of_pos_right (byteLength_pos hs.text_ne_nil)) hrest

/-- Each of the nodes is read from one of the segments, at the place where it stands. -/
theorem readNodes_split {pos : Nat} {segments : List Segment} {nodes : List (Spanned Node)}
    (h : readNodes pos segments = .ok nodes) {n : Spanned Node} (hn : n ∈ nodes) :
    ∃ before s after, segments = before ++ s :: after ∧
      n.span = .ofPiece (pos + byteLength (before.flatMap Segment.text)) s.text ∧
      Node.ofSegment (pos + byteLength (before.flatMap Segment.text)) s = .ok n.value := by
  induction segments generalizing pos nodes with
  | nil => cases h; cases hn
  | cons s segments ih =>
    obtain ⟨node, more, hnode, hmore, rfl⟩ := readNodes_cons h
    rcases List.mem_cons.1 hn with rfl | hn
    · exact ⟨[], s, segments, rfl, rfl, hnode⟩
    · obtain ⟨before, s', after, rfl, hspan, hvalue⟩ := ih hmore hn
      have hpos : pos + byteLength s.text + byteLength (before.flatMap Segment.text) =
          pos + byteLength ((s :: before).flatMap Segment.text) := by
        rw [List.flatMap_cons, byteLength_append, Nat.add_assoc]
      rw [hpos] at hspan hvalue
      exact ⟨s :: before, s', after, rfl, hspan, hvalue⟩

/-- The literal nodes are those of the literal segments. -/
theorem readNodes_isLiteral {pos : Nat} {segments : List Segment} {nodes : List (Spanned Node)}
    (hcut : ∀ s ∈ segments, s.Cut) (h : readNodes pos segments = .ok nodes) :
    nodes.map (·.value.isLiteral) = segments.map Segment.isLiteral := by
  induction segments generalizing pos nodes with
  | nil => cases h; rfl
  | cons s segments ih =>
    obtain ⟨hs, hsegments⟩ := List.forall_mem_cons.1 hcut
    obtain ⟨node, more, hnode, hmore, rfl⟩ := readNodes_cons h
    rw [List.map_cons, List.map_cons, ih hsegments hmore, (ofSegment_reads hs hnode).2]

/-! ## Templates -/

/-- A template is read from the segments of its text in normal form. -/
theorem parse_eq_ok {raw : String} {t : Template} (h : Template.parse raw = .ok t) :
    t.text = normalize raw ∧ ∃ segments, Segment.scan t.text.toList = .ok segments ∧
      readNodes 0 segments = .ok t.nodes := by
  obtain ⟨nodes, hnodes, h⟩ := bind_eq_ok h
  obtain ⟨segments, hsegments, hnodes⟩ := bind_eq_ok hnodes
  cases h
  refine ⟨rfl, segments, ?_, hnodes⟩
  rw [String.toList_ofList]
  exact hsegments

/-- The spans of the nodes follow one another from the start of the text to its end. -/
theorem parse_spans {raw : String} {t : Template} (h : Template.parse raw = .ok t) :
    Tiles 0 (t.nodes.map (·.span)) (byteLength t.text.toList) := by
  obtain ⟨-, segments, hsegments, hnodes⟩ := parse_eq_ok h
  obtain ⟨hjoin, hcut, -⟩ := Segment.scanFrom_sound hsegments
  have htiles := readNodes_tiles hcut hnodes
  rwa [hjoin, Nat.zero_add] at htiles

/-- The span of a node is that of a piece of the text, and the node says what the piece is. -/
theorem parse_reads {raw : String} {t : Template} (h : Template.parse raw = .ok t) :
    ∀ n ∈ t.nodes, n.span.Within t.text.toList ∧ n.value.Reads (n.span.slice t.text.toList) := by
  obtain ⟨-, segments, hsegments, hnodes⟩ := parse_eq_ok h
  obtain ⟨hjoin, hcut, -⟩ := Segment.scanFrom_sound hsegments
  intro n hn
  obtain ⟨before, s, after, rfl, hspan, hvalue⟩ := readNodes_split hnodes hn
  have hs : s.Cut := hcut s (by simp)
  have hpieces : before.flatMap Segment.text ++ s.text ++ after.flatMap Segment.text =
      t.text.toList := by
    rw [← hjoin]
    simp
  rw [Nat.zero_add] at hspan
  rw [hspan, ← hpieces, Span.slice_append]
  exact ⟨Span.ofPiece_within _ _ _, (ofSegment_reads hs hvalue).1⟩

/-- **The nodes of a template tile its text in normal form.** Each starts where the one before it
stops, the first one at the start of the text, and the last one stops at its end. The spans of the
nodes are pieces of the text, and each node says what its piece is. No two literal runs are
neighbours. -/
theorem parse_tiles {raw : String} {t : Template} (h : Template.parse raw = .ok t) :
    t.text = normalize raw ∧
    Tiles 0 (t.nodes.map (·.span)) (byteLength t.text.toList) ∧
    (∀ n ∈ t.nodes, n.span.Within t.text.toList ∧ n.value.Reads (n.span.slice t.text.toList)) ∧
    t.nodes.IsChain fun a b => ¬ (a.value.isLiteral ∧ b.value.isLiteral) := by
  obtain ⟨htext, segments, hsegments, hnodes⟩ := parse_eq_ok h
  obtain ⟨-, hcut, hchain⟩ := Segment.scanFrom_sound hsegments
  refine ⟨htext, parse_spans h, parse_reads h, ?_⟩
  have hliteral := readNodes_isLiteral hcut hnodes
  have hflags : (segments.map Segment.isLiteral).IsChain fun a b : Bool => ¬ (a ∧ b) :=
    (List.isChain_map _).2 hchain
  rw [← hliteral] at hflags
  exact (List.isChain_map _).1 hflags

/-- Three nodes: a run with a stray `}` and a stray `%`, a formula between blanks, and a
reference. -/
theorem parse_tiles_damage :
    Template.parse "  \x7d 5%%\x7bdice  2d6×3 \x7d%\x7bref items a|b\x7d" =
      .ok ⟨"\x7d 5%%\x7bdice  2d6×3 \x7d%\x7bref items a|b\x7d",
        [⟨.literal "\x7d 5%", ⟨0, 4⟩⟩,
         ⟨.dice ⟨⟨[⟨.plus, .dice ⟨2, 6, some 3⟩⟩]⟩, "2d6×3"⟩, ⟨4, 20⟩⟩,
         ⟨.ref ⟨⟨.items, "a"⟩, some "b", "%\x7bref items a|b\x7d"⟩, ⟨20, 36⟩⟩]⟩ ∧
    Tiles 0 [⟨0, 4⟩, ⟨4, 20⟩, ⟨20, 36⟩] 36 ∧
    Node.Reads (.dice ⟨⟨[⟨.plus, .dice ⟨2, 6, some 3⟩⟩]⟩, "2d6×3"⟩)
      "%\x7bdice  2d6×3 \x7d".toList := by
  have h : Template.parse "  \x7d 5%%\x7bdice  2d6×3 \x7d%\x7bref items a|b\x7d" =
      .ok ⟨"\x7d 5%%\x7bdice  2d6×3 \x7d%\x7bref items a|b\x7d",
        [⟨.literal "\x7d 5%", ⟨0, 4⟩⟩,
         ⟨.dice ⟨⟨[⟨.plus, .dice ⟨2, 6, some 3⟩⟩]⟩, "2d6×3"⟩, ⟨4, 20⟩⟩,
         ⟨.ref ⟨⟨.items, "a"⟩, some "b", "%\x7bref items a|b\x7d"⟩, ⟨20, 36⟩⟩]⟩ := by decide +kernel
  obtain ⟨-, htiles, hreads, -⟩ := parse_tiles h
  have hlength : byteLength "\x7d 5%%\x7bdice  2d6×3 \x7d%\x7bref items a|b\x7d".toList = 36 := by
    decide
  rw [hlength] at htiles
  have hslice : Span.slice ⟨4, 20⟩ "\x7d 5%%\x7bdice  2d6×3 \x7d%\x7bref items a|b\x7d".toList =
      "%\x7bdice  2d6×3 \x7d".toList := by decide
  rw [← hslice]
  exact ⟨h, htiles, (hreads ⟨_, ⟨4, 20⟩⟩ (by simp)).2⟩

end Template

end Rulebook
