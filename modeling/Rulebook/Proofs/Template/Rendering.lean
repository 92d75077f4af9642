import Rulebook.Proofs.Entry.Lookup
import Rulebook.Proofs.Entry.Rules
import Rulebook.Proofs.Template.Tiling

/-!
# What a resolved template is rendered as

* `replaced`: a text with the pieces at some spans replaced.
* `replaced_tiles`: if the pieces that are replaced are some of those that a text is tiled by, this is
  all the pieces in a row.
* `Node.standIn`, `standIns`: the text that stands in for a directive, and for all of them at their
  spans. `render_standIn`: it is what the node is rendered as.
* `resolve_aligned`: **a template is resolved directive by directive**, and rendered as its text with
  the directives replaced.
-/

namespace Rulebook

/-! ## Texts with replaced pieces -/

/-- **A text with pieces replaced**, from a position on: the values take the place of what stands at
their spans, and what stands between the spans stays. -/
def replaced (text : List Char) : Nat → List (Spanned (List Char)) → List Char
  | pos, [] => dropBytes pos text
  | pos, e :: edits =>
    Span.slice ⟨pos, e.span.start⟩ text ++ e.value ++ replaced text e.span.stop edits

/-- The replacements of pieces that have one. -/
def edits (parts : List (Spanned (Option (List Char)))) : List (Spanned (List Char)) :=
  parts.filterMap fun p => p.value.map (⟨·, p.span⟩)

/-- **A text that is tiled by pieces**, some of them replaced, is all of them in a row. Here `gap` is
what was passed since the last one that is replaced. -/
theorem replaced_tiles {text front gap rest : List Char}
    {parts : List (Spanned (Option (List Char)))} (htext : text = front ++ gap ++ rest)
    (htiles : Tiles (byteLength (front ++ gap)) (parts.map (·.span)) (byteLength text))
    (hwithin : ∀ p ∈ parts, p.span.Within text) :
    replaced text (byteLength front) (edits parts) =
      gap ++ parts.flatMap fun p => p.value.getD (p.span.slice text) := by
  -- a piece that stays joins the gap, and one that is replaced ends it
  induction parts generalizing front gap rest with
  | nil =>
    -- the last piece stops at the end of the text, so nothing is left behind the gap
    have hlength := htiles.eq_of_nil
    rw [htext, byteLength_append (front ++ gap)] at hlength
    have hrest : rest = [] := byteLength_eq_zero (by omega)
    rw [hrest, List.append_nil] at htext
    show dropBytes (byteLength front) text = gap ++ []
    rw [htext, dropBytes_append, List.append_nil]
  | cons p parts ih =>
    obtain ⟨hp, hparts⟩ := List.forall_mem_cons.1 hwithin
    obtain ⟨hstart, htail⟩ := htiles.tail
    obtain ⟨before, piece, after, hpiece, hspan, hslice⟩ := hp.exists_piece
    obtain ⟨rfl, rfl⟩ : front ++ gap = before ∧ rest = piece ++ after := by
      refine append_cut_inj ?_ (hstart.trans (congrArg Span.start hspan))
      rw [← htext, hpiece, List.append_assoc]
    have hstop : p.span.stop = byteLength (front ++ gap ++ piece) := by
      rw [hspan, Span.ofPiece, ← byteLength_append]
    rw [hstop] at htail
    rw [List.flatMap_cons, hslice]
    cases hvalue : p.value with
    | none =>
      have hedits : edits (p :: parts) = edits parts := by simp [edits, hvalue]
      have hpassed : text = front ++ (gap ++ piece) ++ after := by simpa using hpiece
      rw [List.append_assoc] at htail
      rw [hedits, ih hpassed htail hparts, List.append_assoc]
      rfl
    | some value =>
      have hedits : edits (p :: parts) = ⟨value, p.span⟩ :: edits parts := by simp [edits, hvalue]
      have hpassed : text = front ++ gap ++ piece ++ [] ++ after := by simpa using hpiece
      have hgap : Span.slice ⟨byteLength front, p.span.start⟩ text = gap := by
        have hofPiece : (⟨byteLength front, p.span.start⟩ : Span) = .ofPiece (byteLength front) gap := by
          rw [Span.ofPiece, ← byteLength_append]
          exact congrArg _ hstart.symm
        rw [hofPiece, htext]
        exact Span.slice_append _ _ _
      have hrest := ih hpassed (by simpa only [List.append_nil] using htail) hparts
      rw [hedits, replaced, hgap, hstop, hrest, List.append_assoc]
      rfl

/-- A text that is tiled by pieces is all of them in a row. -/
theorem flatMap_slice {text : List Char} {spans : List Span} (htiles : Tiles 0 spans (byteLength text))
    (hwithin : ∀ s ∈ spans, s.Within text) : spans.flatMap (·.slice text) = text := by
  let parts : List (Spanned (Option (List Char))) := spans.map fun s => ⟨none, s⟩
  have hspans : parts.map (·.span) = spans := by simp [parts, Function.comp_def]
  have hedits : edits parts = [] := by simp [edits, parts]
  have hparts := replaced_tiles (show text = [] ++ [] ++ text from rfl) (hspans.symm ▸ htiles)
    (by simpa [parts] using hwithin)
  rw [hedits] at hparts
  simpa [replaced, dropBytes, parts, List.flatMap_map] using hparts.symm

namespace Template

/-! ## What stands in for a directive -/

/-- **The text that stands in for a directive** whose text is a piece: a formula as it is written, and
for a reference its display text, else the name of the entry that is registered under its target, else
the piece itself. Nothing stands in for a literal run. -/
def Node.standIn (registry : Registry) (piece : List Char) : Node → Option (List Char)
  | literal _ => none
  | dice d => some d.formula.text.toList
  | ref r =>
    match r.display, registry.get? r.target.collection r.target.id with
    | some display, _ => some display.toList
    | none, some entry => some entry.displayName.toList
    | none, none => some piece

/-- What a node is rendered as. -/
theorem render_standIn {n : Node} {piece : List Char} (h : n.Reads piece) (registry : Registry) :
    (n.render (n.target? registry)).toList = (n.standIn registry piece).getD piece := by
  cases h with
  | literal nonempty plain => exact String.toList_ofList
  | dice closed inside trimmed parsed => rfl
  | @ref r body closed raw =>
    cases hdisplay : r.display with
    | some display => simp [Node.render, Node.standIn, hdisplay]
    | none =>
      cases hget : registry.get? r.target.collection r.target.id with
      | some entry => simp [Node.render, Node.standIn, Node.target?, Node.ref?, hdisplay, hget]
      | none => simp [Node.render, Node.standIn, Node.target?, Node.ref?, hdisplay, hget, raw]

/-- The nodes of a template with what stands in for them. -/
def parts (t : Template) (registry : Registry) : List (Spanned (Option (List Char))) :=
  t.nodes.map fun n => ⟨n.value.standIn registry (n.span.slice t.text.toList), n.span⟩

/-- **What stands in for the directives** of a template, at their spans. -/
def standIns (t : Template) (registry : Registry) : List (Spanned (List Char)) :=
  edits (t.parts registry)

variable {raw : String} {t : Template}

theorem render_eq_parts (h : Template.parse raw = .ok t) (registry : Registry) :
    (t.resolve registry).render.toList =
      (t.parts registry).flatMap fun p => p.value.getD (p.span.slice t.text.toList) := by
  rw [render_resolve, String.toList_join, List.flatMap_map, parts, List.flatMap_map]
  refine List.flatMap_congr fun n hn => ?_
  exact render_standIn (parse_reads h n hn).2 registry

/-- The parts of a template tile its text. -/
theorem parts_tiles (h : Template.parse raw = .ok t) (registry : Registry) :
    Tiles 0 ((t.parts registry).map (·.span)) (byteLength t.text.toList) ∧
    ∀ p ∈ t.parts registry, p.span.Within t.text.toList := by
  have hspans : (t.parts registry).map (·.span) = t.nodes.map (·.span) := List.map_map
  refine ⟨hspans ▸ parse_spans h, fun p hp => ?_⟩
  obtain ⟨n, hn, rfl⟩ := List.mem_map.1 hp
  exact (parse_reads h n hn).1

/-- **A template is rendered as its text with the directives replaced.** -/
theorem render_eq_replaced (h : Template.parse raw = .ok t) (registry : Registry) :
    (t.resolve registry).render =
      String.ofList (replaced t.text.toList 0 (t.standIns registry)) := by
  obtain ⟨htiles, hwithin⟩ := parts_tiles h registry
  have hreplaced := replaced_tiles (show t.text.toList = [] ++ [] ++ t.text.toList from rfl) htiles
    hwithin
  rw [← String.toList_inj, String.toList_ofList, render_eq_parts h]
  exact hreplaced.symm

/-- The spans of the replaced directives do not overlap. -/
theorem standIns_apart (h : Template.parse raw = .ok t) (registry : Registry) :
    (t.standIns registry).Pairwise fun a b => a.span.stop ≤ b.span.start := by
  have hsub : ((t.standIns registry).map (·.span)).Sublist ((t.parts registry).map (·.span)) := by
    refine filterMap_sublist ?_ _
    intro p e he
    obtain ⟨value, -, rfl⟩ := Option.map_eq_some_iff.1 he
    rfl
  exact List.pairwise_map.1 ((parts_tiles h registry).1.apart.sublist hsub)

/-- **A template without formulas and display texts of which nothing is found** is rendered as its
text. -/
theorem render_eq_text (h : Template.parse raw = .ok t) {registry : Registry}
    (hformulas : t.formulas = [])
    (hreferences : ∀ r ∈ t.references, r.display = none ∧ ¬ registry.Holds r.target) :
    (t.resolve registry).render = t.text := by
  have hkept : ∀ n ∈ t.nodes, ∀ piece : List Char,
      (n.value.standIn registry piece).getD piece = piece := by
    intro n hn piece
    cases hvalue : n.value with
    | literal text => rfl
    | dice d =>
      -- there is no formula
      have hmem : d.formula ∈ t.formulas := List.mem_filterMap.2 ⟨n, hn, by rw [hvalue]; rfl⟩
      rw [hformulas] at hmem
      cases hmem
    | ref r =>
      have hr : r ∈ t.references := List.mem_filterMap.2 ⟨n, hn, by rw [hvalue]; rfl⟩
      obtain ⟨hdisplay, hmissing⟩ := hreferences r hr
      simp [Node.standIn, hdisplay, not_holds_iff.1 hmissing]
  rw [← String.toList_inj, render_eq_parts h, parts, List.flatMap_map]
  calc t.nodes.flatMap _ = t.nodes.flatMap (·.span.slice t.text.toList) :=
        List.flatMap_congr fun n hn => hkept n hn _
    _ = (t.nodes.map (·.span)).flatMap (·.slice t.text.toList) := by rw [List.flatMap_map]
    _ = t.text.toList := flatMap_slice (parse_spans h) fun s hs => by
        obtain ⟨n, hn, rfl⟩ := List.mem_map.1 hs
        exact (parse_reads h n hn).1

/-- A template is fully resolved if every reference is linked to an entry. -/
theorem isFullyResolved_iff (t : Template) (registry : Registry) :
    (t.resolve registry).isFullyResolved = true ↔
      ∀ link ∈ (t.resolve registry).links, link.2.isSome = true := by
  unfold ResolvedTemplate.isFullyResolved
  rw [failures_resolve, links_resolve, List.isEmpty_iff, List.map_eq_nil_iff, dangling,
    List.filter_eq_nil_iff]
  simp only [decide_eq_true_eq, not_not, List.forall_mem_map, Option.isSome_iff_exists]
  rfl

/-- **A template is resolved directive by directive.**

Each reference is linked to what is registered under its target, and those without a target are the
failures, each with the span of its directive. The template is rendered as its text in normal form with
the directives replaced: what stands between their spans, which do not overlap, stays as it is. -/
theorem resolve_aligned {raw : String} {t : Template} (h : Template.parse raw = .ok t)
    (registry : Registry) :
    (t.resolve registry).links = t.directives.map (fun d =>
      (d.value, registry.get? d.value.target.collection d.value.target.id)) ∧
    (t.resolve registry).failures = (t.directives.filter fun d =>
      (registry.get? d.value.target.collection d.value.target.id).isNone).map (fun d =>
        ⟨.notFound d.value.target, d.span⟩) ∧
    ((t.resolve registry).isFullyResolved = true ↔
      ∀ link ∈ (t.resolve registry).links, link.2.isSome = true) ∧
    (t.standIns registry).Pairwise (fun a b => a.span.stop ≤ b.span.start) ∧
    (t.resolve registry).render =
      String.ofList (replaced (normalize raw).toList 0 (t.standIns registry)) ∧
    (t.formulas = [] →
      (∀ r ∈ t.references, r.display = none ∧
        registry.get? r.target.collection r.target.id = none) →
      (t.resolve registry).render = normalize raw) := by
  have htext : t.text = normalize raw := (parse_eq_ok h).1
  rw [← htext]
  refine ⟨links_resolve t registry, ?_, isFullyResolved_iff t registry, standIns_apart h registry,
    render_eq_replaced h registry, fun hformulas hreferences => render_eq_text h hformulas ?_⟩
  · rw [failures_resolve, dangling]
    simp only [not_holds_iff, ← Option.isNone_iff_eq_none, Bool.decide_eq_true]
  · intro r hr
    exact ⟨(hreferences r hr).1, not_holds_iff.2 (hreferences r hr).2⟩

/-- A registry with one item. -/
def quiver : Registry :=
  .ofBatches [.unlabelled .items [.record { id := "arrow", name := some "Arrow" }]]

/-- A reference to the item, one to an item that is missing, and a formula. -/
def shot : Template where
  text := "a %\x7bref items arrow\x7d, %\x7bref items bow\x7d: %\x7bdice 2d6×3\x7d"
  nodes :=
    [⟨.literal "a ", ⟨0, 2⟩⟩,
     ⟨.ref ⟨⟨.items, "arrow"⟩, none, "%\x7bref items arrow\x7d"⟩, ⟨2, 20⟩⟩,
     ⟨.literal ", ", ⟨20, 22⟩⟩,
     ⟨.ref ⟨⟨.items, "bow"⟩, none, "%\x7bref items bow\x7d"⟩, ⟨22, 38⟩⟩,
     ⟨.literal ": ", ⟨38, 40⟩⟩,
     ⟨.dice ⟨⟨[⟨.plus, .dice ⟨2, 6, some 3⟩⟩]⟩, "2d6×3"⟩, ⟨40, 54⟩⟩]

/-- The second reference fails and stays as it is written. On its own, against a registry without
entries, it is all that is rendered. -/
theorem resolve_aligned_shot :
    Template.parse " a %\x7bref items arrow\x7d, %\x7bref items bow\x7d: %\x7bdice 2d6×3\x7d" =
      .ok shot ∧
    (shot.resolve quiver).failures = [⟨.notFound ⟨.items, "bow"⟩, ⟨22, 38⟩⟩] ∧
    (shot.resolve quiver).render = "a Arrow, %\x7bref items bow\x7d: 2d6 × 3" ∧
    ∃ t, Template.parse " %\x7bref items bow\x7d" = .ok t ∧ t.formulas = [] ∧
      (∀ r ∈ t.references, r.display = none ∧
        Registry.get? {} r.target.collection r.target.id = none) ∧
      (t.resolve {}).render = "%\x7bref items bow\x7d" := by
  have hparse : Template.parse
      " a %\x7bref items arrow\x7d, %\x7bref items bow\x7d: %\x7bdice 2d6×3\x7d" = .ok shot := by decide +kernel
  obtain ⟨-, hfailures, -, -, hrender, -⟩ := resolve_aligned hparse quiver
  have hmissed : Template.parse " %\x7bref items bow\x7d" = .ok ⟨"%\x7bref items bow\x7d",
      [⟨.ref ⟨⟨.items, "bow"⟩, none, "%\x7bref items bow\x7d"⟩, ⟨0, 16⟩⟩]⟩ := by decide +kernel
  obtain ⟨-, -, -, -, -, hkept⟩ := resolve_aligned hmissed {}
  have hreferences : ∀ r ∈ references ⟨"%\x7bref items bow\x7d",
      [⟨.ref ⟨⟨.items, "bow"⟩, none, "%\x7bref items bow\x7d"⟩, ⟨0, 16⟩⟩]⟩,
      r.display = none ∧ Registry.get? {} r.target.collection r.target.id = none := by
    intro r hr
    cases List.mem_singleton.1 hr
    exact ⟨rfl, rfl⟩
  refine ⟨hparse, ?_, ?_, _, hmissed, rfl, hreferences, ?_⟩
  · rw [hfailures]
    decide +kernel
  · rw [hrender]
    decide +kernel
  · rw [hkept rfl hreferences]
    decide +kernel

end Template

end Rulebook
