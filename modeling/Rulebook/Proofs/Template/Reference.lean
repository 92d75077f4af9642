import Rulebook.Proofs.Template.Tiling
import Rulebook.Proofs.Text.Lines
import Rulebook.Proofs.Text.Word

/-!
# How a reference is written

```text
reference := blank* 'ref' blank+ collection blank+ id blank* ['|' blank* display blank*]
```

* `IsId`, `IsDisplay`, `DisplayPart`, `TargetPart`: an id, a display text, the display text behind its
  bar, and the id with it.
* `RefBody`: **a body that is written as a reference.**
* `splitBar_cases`: a text is cut at its first bar.
* `exists_targetPart`, `TargetPart.readTarget`, `readRef_eq_ok_iff`: what is read behind the name of the
  collection, and behind the keyword. `refBody_of_ofBody`, `RefBody.ofBody`: what is read as a body.
* `parse_directive`: a text of one directive, as a template.
* `ref_iff_written`: **a body is read as a reference exactly if it is written as one**, and a template
  of one reference is read back.
-/

namespace Rulebook

namespace Collection

/-- The name of a collection is a word that can stand in a directive. -/
theorem name_solid (c : Collection) : ∀ d ∈ c.name.toList, isBlank d = false ∧ d ≠ '}' := by
  cases c <;> simp [name, isBlank]

theorem name_ne_nil (c : Collection) : c.name.toList ≠ [] := by
  rw [ne_eq, String.toList_eq_nil_iff]
  cases c <;> decide

theorem parse_eq_ok_iff {name : String} {c : Collection} :
    Collection.parse name = .ok c ↔ name = c.name := by
  unfold Collection.parse
  constructor
  · intro h
    split at h
    · next heq =>
      cases h
      exact (name_of_ofName? heq).symm
    · cases h
  · rintro rfl
    rw [ofName?_name]

end Collection

namespace Template

/-- **An id in a directive**: one word without a bar. -/
structure IsId (id : List Char) : Prop where
  nonempty : id ≠ []
  solid : ∀ c ∈ id, isBlank c = false
  barless : '|' ∉ id

/-- **A display text in a directive**: not empty, and no blank at its ends. -/
structure IsDisplay (display : List Char) : Prop where
  nonempty : display ≠ []
  bare : Bare display

/-- What stands behind the id and its blanks: nothing, or a bar and a display text between blanks. -/
inductive DisplayPart : Option (List Char) → List Char → Prop
  | absent : DisplayPart none []
  | shown {left display right : List Char} (hleft : isBlankText left = true)
      (hdisplay : IsDisplay display) (hright : isBlankText right = true) :
      DisplayPart (some display) ('|' :: (left ++ display ++ right))

/-- The id, and what stands behind it. -/
inductive TargetPart (id : List Char) (display : Option (List Char)) : List Char → Prop
  | mk {z tail : List Char} (hid : IsId id) (hz : isBlankText z = true)
      (htail : DisplayPart display tail) : TargetPart id display (id ++ z ++ tail)

/-- **A body that is written as a reference**: the keyword, the name of a collection and an id, with
blanks between them and around them, and possibly a display text. -/
inductive RefBody (c : Collection) (id : List Char) (display : Option (List Char)) :
    List Char → Prop
  | mk {w x y target : List Char} (hw : isBlankText w = true) (hx : isBlankText x = true)
      (hx' : x ≠ []) (hy : isBlankText y = true) (hy' : y ≠ [])
      (htarget : TargetPart id display target) :
      RefBody c id display (w ++ "ref".toList ++ x ++ c.name.toList ++ y ++ target)

/-! ## Bars -/

theorem splitBar_plain {text : List Char} (h : '|' ∉ text) : splitBar text = (text, none) := by
  have hdrop : text.dropWhile (· != '|') = [] :=
    List.dropWhile_eq_nil_iff.2 fun c hc => by simpa using fun heq : c = '|' => h (heq ▸ hc)
  unfold splitBar
  rw [hdrop]

theorem splitBar_bar {left : List Char} (h : '|' ∉ left) (right : List Char) :
    splitBar (left ++ '|' :: right) = (left, some right) := by
  have hleft : ∀ c ∈ left, (c != '|') = true := fun c hc => by
    simpa using fun heq : c = '|' => h (heq ▸ hc)
  unfold splitBar
  rw [List.dropWhile_append_of_pos hleft, List.takeWhile_append_of_pos hleft]
  simp

/-- **A text is cut at its first bar**, if it has one. -/
theorem splitBar_cases (text : List Char) :
    ('|' ∉ text ∧ splitBar text = (text, none)) ∨
      ∃ left right, '|' ∉ left ∧ text = left ++ '|' :: right ∧
        splitBar text = (left, some right) := by
  by_cases h : '|' ∈ text
  · obtain ⟨left, right, rfl, hleft⟩ := List.eq_append_cons_of_mem h
    exact .inr ⟨left, right, hleft, rfl, splitBar_bar hleft right⟩
  · exact .inl ⟨h, splitBar_plain h⟩

/-! ## The target -/

theorem IsId.bare {id : List Char} (h : IsId id) : Bare id :=
  ⟨fun c hc => h.solid c (List.mem_of_mem_head? hc), fun c hc => h.solid c (List.mem_of_getLast? hc)⟩

/-- What the reader of a target asks for. -/
theorem readTarget_eq_ok {text id : List Char} {display : Option (List Char)} :
    readTarget text = .ok (id, display) ↔ trim text ≠ [] ∧
      trim (splitBar (trim text)).1 = id ∧ (splitBar (trim text)).2.map trim = display ∧
      id ≠ [] ∧ (∀ c ∈ id, isBlank c = false) ∧ display ≠ some [] := by
  unfold readTarget
  split
  · next h => simp [h]
  · next hne =>
    cases splitBar (trim text) with
    | mk left right =>
      simp only
      constructor
      · intro h
        split at h
        · cases h
        · next hid =>
          split at h
          · cases h
          · next hsolid =>
            split at h
            · cases h
            · next hdisplay =>
              cases h
              exact ⟨hne, rfl, rfl, by simpa using hid, by simpa using hsolid, hdisplay⟩
      · rintro ⟨-, rfl, rfl, hid, hsolid, hdisplay⟩
        rw [if_neg (by simpa using hid), if_neg (by simpa using hsolid), if_neg hdisplay]

/-- What is read as a target is written as one, behind blanks. -/
theorem exists_targetPart {text id : List Char} {display : Option (List Char)}
    (h : readTarget text = .ok (id, display)) :
    ∃ y target, text = y ++ target ∧ isBlankText y = true ∧ TargetPart id display target := by
  obtain ⟨hne, hid, hdisplay, hnonempty, hsolid, hshown⟩ := readTarget_eq_ok.1 h
  obtain ⟨before, after, htext, hbefore, hafter⟩ := exists_eq_append_trim text
  rcases splitBar_cases (trim text) with ⟨hplain, hsplit⟩ | ⟨left, right, hleft, htrim, hsplit⟩
  · -- without a bar the text between the blanks is the id
    rw [hsplit] at hid hdisplay
    cases hdisplay
    simp only [trim_trim] at hid
    subst hid
    refine ⟨before, trim text ++ after, ?_, isBlankText_iff.2 hbefore, ?_⟩
    · rw [← List.append_assoc]
      exact htext
    · simpa using TargetPart.mk ⟨hnonempty, hsolid, hplain⟩ (isBlankText_iff.2 hafter) .absent
  · -- the id and the display text stand between blanks on both sides of the bar
    rw [hsplit] at hid hdisplay
    cases hdisplay
    simp only at hid
    subst hid
    obtain ⟨b, z, hb, hblank, hz⟩ := exists_eq_append_trim left
    obtain ⟨l, r, hr, hlblank, hrblank⟩ := exists_eq_append_trim right
    have hbarless : '|' ∉ trim left := fun hmem => hleft (by rw [hb]; simp [hmem])
    have hbehind : DisplayPart (some (trim right)) ('|' :: (l ++ trim right ++ (r ++ after))) :=
      .shown (isBlankText_iff.2 hlblank) ⟨fun hnil => hshown (by simp [hnil]), trim_bare right⟩
        (isBlankText_iff.2 (List.forall_mem_append.2 ⟨hrblank, hafter⟩))
    refine ⟨before ++ b, _, ?_, isBlankText_iff.2 (List.forall_mem_append.2 ⟨hbefore, hblank⟩),
      .mk ⟨hnonempty, hsolid, hbarless⟩ (isBlankText_iff.2 hz) hbehind⟩
    calc text = before ++ (left ++ '|' :: right) ++ after := by rw [← htrim]; exact htext
      _ = before ++ ((b ++ trim left ++ z) ++ '|' :: (l ++ trim right ++ r)) ++ after := by
          rw [← hb, ← hr]
      _ = _ := by simp

/-- What is written as a target is read as one, also behind blanks. -/
theorem TargetPart.readTarget {id target y : List Char} {display : Option (List Char)}
    (h : TargetPart id display target) (hy : isBlankText y = true) :
    Template.readTarget (y ++ target) = .ok (id, display) := by
  rw [readTarget_eq_ok]
  obtain ⟨hid, hz, htail⟩ := h
  cases htail with
  | absent =>
    rename_i z
    have htrim : trim (y ++ (id ++ z ++ [])) = id := by
      rw [List.append_nil, ← List.append_assoc]
      exact trim_append (isBlankText_iff.1 hy) hid.bare (isBlankText_iff.1 hz)
    rw [htrim, splitBar_plain hid.barless]
    exact ⟨hid.nonempty, trim_of_bare hid.bare, rfl, hid.nonempty, hid.solid, nofun⟩
  | shown hleft hdisplay hright =>
    rename_i z left display right
    have hbarless : '|' ∉ id ++ z := by
      rw [List.mem_append, not_or]
      exact ⟨hid.barless, fun hmem => absurd (isBlankText_iff.1 hz _ hmem) (by decide)⟩
    -- the blanks around the bar are not at the ends, so only the outer ones are cut here
    have htrim : trim (y ++ (id ++ z ++ '|' :: (left ++ display ++ right))) =
        id ++ z ++ '|' :: (left ++ display) := by
      have hbare : Bare (id ++ z ++ '|' :: (left ++ display)) := by
        simpa using hid.bare.around hid.nonempty hdisplay.bare hdisplay.nonempty (z ++ '|' :: left)
      rw [← trim_append (isBlankText_iff.1 hy) hbare (isBlankText_iff.1 hright)]
      simp
    rw [htrim, splitBar_bar hbarless]
    refine ⟨by simp, ?_, ?_, hid.nonempty, hid.solid, by simpa using hdisplay.nonempty⟩
    · have htrim : trim ([] ++ id ++ z) = id :=
        trim_append (List.forall_mem_nil _) hid.bare (isBlankText_iff.1 hz)
      exact htrim
    · have htrim : trim (left ++ display ++ []) = display :=
        trim_append (isBlankText_iff.1 hleft) hdisplay.bare (List.forall_mem_nil _)
      simpa using htrim

/-! ## The body -/

/-- **What is behind the keyword of a reference**: the name of a collection, and a target. -/
theorem readRef_eq_ok_iff {start pos : Nat} {raw args : List Char} {r : RefDirective} :
    readRef start raw pos args = .ok r ↔
      r.raw = String.ofList raw ∧
      ∃ x after, FirstWord args x r.target.collection.name.toList after ∧
        readTarget after = .ok (r.target.id.toList, r.display.map String.toList) := by
  constructor
  · intro h
    refine ⟨readRef_raw h, ?_⟩
    rcases readRef_cases start raw pos args with ⟨-, he⟩ | ⟨x, word, after, hword, ⟨cause, -, he⟩ |
      ⟨c, hname, ⟨fault, -, he⟩ | ⟨id, display, htarget, hok⟩⟩⟩
    · rw [he] at h; cases h
    · rw [he] at h; cases h
    · rw [he] at h; cases h
    · rw [hok] at h
      cases h
      refine ⟨x, after, ?_, ?_⟩
      · rw [← firstWord?_eq_some_iff, hword, ← Collection.parse_eq_ok_iff.1 hname, String.toList_ofList]
      · rw [htarget]
        simp [Function.comp_def]
  · rintro ⟨hraw, x, after, hword, htarget⟩
    have hname : Collection.parse (String.ofList r.target.collection.name.toList) =
        .ok r.target.collection := Collection.parse_eq_ok_iff.2 (by simp)
    unfold readRef
    rw [firstWord?_eq_some_iff.2 hword]
    simp only [hname, htarget, ← hraw]
    simp [Function.comp_def]

/-- What is read as a reference is written as one. -/
theorem refBody_of_ofBody {start : Nat} {body : List Char} {r : RefDirective}
    (h : Node.ofBody start body = .ok (.ref r)) :
    RefBody r.target.collection r.target.id.toList (r.display.map String.toList) body ∧
      r.raw = String.ofList (Segment.directive body).text := by
  rcases ofBody_cases start body with ⟨-, he⟩ | ⟨w, word, args, hword, hcases⟩
  · rw [he] at h
    cases h
  rcases hcases with ⟨-, he⟩ | ⟨rfl, he⟩ | ⟨-, -, he⟩
  · rw [he] at h
    obtain ⟨d, -, hd⟩ := map_eq_ok h
    cases hd
  · rw [he] at h
    obtain ⟨r', hr, heq⟩ := map_eq_ok h
    cases heq
    obtain ⟨hraw, x, after, hname, htarget⟩ := readRef_eq_ok_iff.1 hr
    obtain ⟨y, target, rfl, hy, htarget⟩ := exists_targetPart htarget
    have hword := firstWord?_eq_some_iff.1 hword
    -- a word goes on up to a blank, so there is one between any two of them
    have hx' : x ≠ [] := by
      rw [hname.text_eq] at hword
      exact hword.gap hname.nonempty hname.solid
    have hy' : y ≠ [] := by
      obtain ⟨hid, -, -⟩ := htarget
      rw [List.append_assoc] at hname
      exact hname.gap hid.nonempty hid.solid
    have hbody : body = w ++ "ref".toList ++ x ++ r.target.collection.name.toList ++ y ++ target := by
      rw [hword.text_eq, hname.text_eq]
      simp only [List.append_assoc]
    refine ⟨?_, hraw⟩
    rw [hbody]
    exact .mk (isBlankText_iff.2 hword.blank) (isBlankText_iff.2 hname.blank) hx' hy hy' htarget
  · rw [he] at h
    cases h

/-- What is written as a reference is read as one. -/
theorem RefBody.ofBody {body : List Char} {r : RefDirective} (start : Nat)
    (h : RefBody r.target.collection r.target.id.toList (r.display.map String.toList) body)
    (hraw : r.raw = String.ofList (Segment.directive body).text) :
    Node.ofBody start body = .ok (.ref r) := by
  cases h with
  | @mk w x y target hw hx hx' hy hy' htarget =>
    have hname := firstWord_of_blanks hx r.target.collection.name_ne_nil
      (fun d hd => (r.target.collection.name_solid d hd).1) hy hy' target
    have hword := firstWord_of_blanks hw (show "ref".toList ≠ [] by decide) (by simp [isBlank]) hx hx'
      (r.target.collection.name.toList ++ (y ++ target))
    simp only [List.append_assoc] at hraw ⊢
    rw [ofBody_ref start (firstWord?_eq_some_iff.2 hword),
      readRef_eq_ok_iff.2 ⟨hraw, x, _, hname, htarget.readTarget hy⟩]
    rfl

/-! ## A template of one reference -/

/-- A line that starts with no blank is in normal form. -/
theorem normalizeChars_line {c : Char} {cs : List Char} (hc : isBlank c = false)
    (h : '\n' ∉ c :: cs) : normalizeChars (c :: cs) = c :: cs := by
  have hblank : isBlankText (c :: cs) = false := by simp [isBlankText, hc]
  have hindent : indentation (c :: cs) = 0 := by
    have hstop : ¬ (c = ' ' ∨ c = '\t') := by rintro (rfl | rfl) <;> cases hc
    simp [indentation, hstop]
  unfold normalizeChars normalizeLines
  rw [lines_of_line (List.cons_ne_nil c cs) h]
  have htrim : trimLines [c :: cs] = [c :: cs] := by simp [trimLines, hblank]
  rw [htrim]
  simp [commonIndentation, hblank, hindent, joinLines]

/-- A text of one directive, as a template. -/
theorem parse_directive {body : List Char} {node : Node} (hclose : '}' ∉ body)
    (hline : '\n' ∉ body) (hnode : Node.ofBody 0 body = .ok node) :
    Template.parse (String.ofList (Segment.directive body).text) =
      .ok ⟨String.ofList (Segment.directive body).text,
        [⟨node, .ofPiece 0 (Segment.directive body).text⟩]⟩ := by
  have hnormal : normalizeChars (Segment.directive body).text = (Segment.directive body).text :=
    normalizeChars_line (by decide) (by simpa using hline)
  have hscan : Segment.scan (Segment.directive body).text = .ok [.directive body] := by
    refine Segment.scanFrom_complete ⟨by simp, ?_, List.isChain_singleton _⟩
    simpa using Segment.Cut.directive hclose
  have hread : readNodes 0 [.directive body] =
      .ok [⟨node, .ofPiece 0 (Segment.directive body).text⟩] := by
    simp only [readNodes, Node.ofSegment, hnode]
    rfl
  simp only [Template.parse, nodesOf, String.toList_ofList, hnormal, hscan]
  show (readNodes 0 [.directive body] >>= _) = _
  rw [hread]
  rfl

/-- The body of a reference with one blank between its parts. -/
def writtenBody (target : Reference) (display : Option String) : List Char :=
  "ref".toList ++ ' ' :: (target.collection.name.toList ++ ' ' :: (target.id.toList ++
    display.elim [] ('|' :: ·.toList)))

/-- A reference in a template, with one blank between its parts. -/
def written (target : Reference) (display : Option String) : String :=
  "%\x7bref " ++ target.collection.name ++ " " ++ target.id ++ display.elim "" ("|" ++ ·) ++ "\x7d"

theorem written_eq (target : Reference) (display : Option String) :
    written target display = String.ofList (Segment.directive (writtenBody target display)).text := by
  rw [← String.toList_inj, String.toList_ofList]
  cases display <;> simp [written, writtenBody, Segment.text]

theorem writtenBody_refBody {target : Reference} {display : Option String}
    (hid : IsId target.id.toList) (hdisplay : ∀ d ∈ display, IsDisplay d.toList) :
    RefBody target.collection target.id.toList (display.map String.toList)
      (writtenBody target display) := by
  have htail : DisplayPart (display.map String.toList) (display.elim [] ('|' :: ·.toList)) := by
    cases display with
    | none => exact .absent
    | some d =>
      have hshown : DisplayPart (some d.toList) ('|' :: ([] ++ d.toList ++ [])) :=
        .shown rfl (hdisplay d rfl) rfl
      simpa using hshown
  have hbody := RefBody.mk (w := []) (x := [' ']) (y := [' ']) (c := target.collection) rfl rfl
    (List.cons_ne_nil _ _) rfl (List.cons_ne_nil _ _) (TargetPart.mk (z := []) hid rfl htail)
  simpa [writtenBody] using hbody

theorem not_mem_writtenBody {target : Reference} {display : Option String} {c : Char}
    (hname : c ∉ target.collection.name.toList) (hid : c ∉ target.id.toList)
    (hdisplay : ∀ d ∈ display, c ∉ d.toList) (hother : c ∉ "ref |".toList) :
    c ∉ writtenBody target display := by
  cases display <;> simp_all [writtenBody]

/-- **The directives that are references**: the bodies that are written as one, whatever blanks are in
them. With one blank between its parts, any reference that has no close and no line feed in it can be
written, and is read back from a template of its own. -/
theorem ref_iff_written :
    (∀ start body r, Node.ofBody start body = .ok (.ref r) ↔
      RefBody r.target.collection r.target.id.toList (r.display.map String.toList) body ∧
      r.raw = String.ofList (Segment.directive body).text) ∧
    ∀ (target : Reference) (display : Option String),
      IsId target.id.toList → '}' ∉ target.id.toList →
      (∀ d ∈ display, IsDisplay d.toList ∧ '}' ∉ d.toList ∧ '\n' ∉ d.toList) →
      Template.parse (written target display) =
        .ok ⟨written target display,
          [⟨.ref ⟨target, display, written target display⟩,
            .ofPiece 0 (written target display).toList⟩]⟩ := by
  refine ⟨fun start body r => ⟨refBody_of_ofBody, fun h => h.1.ofBody start h.2⟩,
    fun target display hid hclose hdisplay => ?_⟩
  have hclosed : '}' ∉ writtenBody target display :=
    not_mem_writtenBody (fun hmem => (target.collection.name_solid _ hmem).2 rfl) hclose
      (fun d hd => (hdisplay d hd).2.1) (by decide)
  have hline : '\n' ∉ writtenBody target display :=
    not_mem_writtenBody (fun hmem => absurd (target.collection.name_solid _ hmem).1 (by decide))
      (fun hmem => absurd (hid.solid _ hmem) (by decide)) (fun d hd => (hdisplay d hd).2.2) (by decide)
  have hread : Node.ofBody 0 (writtenBody target display) =
      .ok (.ref ⟨target, display, written target display⟩) :=
    (writtenBody_refBody hid fun d hd => (hdisplay d hd).1).ofBody 0 (written_eq target display)
  rw [written_eq, parse_directive hclosed hline (written_eq target display ▸ hread),
    String.toList_ofList]

/-- An id of two bytes a character, and a display text with blanks and a bar in it. -/
theorem ref_iff_written_bar :
    IsId "épée".toList ∧ '}' ∉ "épée".toList ∧
    (∀ d ∈ some "a  b|c", IsDisplay d.toList ∧ '}' ∉ d.toList ∧ '\n' ∉ d.toList) ∧
    Template.parse "%\x7bref items épée|a  b|c\x7d" =
      .ok ⟨"%\x7bref items épée|a  b|c\x7d",
        [⟨.ref ⟨⟨.items, "épée"⟩, some "a  b|c", "%\x7bref items épée|a  b|c\x7d"⟩, ⟨0, 26⟩⟩]⟩ := by
  have hid : IsId "épée".toList := ⟨by decide, by simp [isBlank], by decide⟩
  have hdisplay : ∀ d ∈ some "a  b|c", IsDisplay d.toList ∧ '}' ∉ d.toList ∧ '\n' ∉ d.toList := by
    rintro _ ⟨⟩
    exact ⟨⟨by decide, by simp [isBlank], by simp [isBlank]⟩, by decide, by decide⟩
  exact ⟨hid, by decide, hdisplay, ref_iff_written.2 ⟨.items, "épée"⟩ (some "a  b|c") hid (by decide)
    hdisplay⟩

end Template

end Rulebook
