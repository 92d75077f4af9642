import Rulebook.Text.Span

/-!
# Pieces of a text

Positions count bytes, so not every number up to the length of a text is a place in it.

* `IsBoundary`: a position between two characters of a text.
* `Span.Within`: a span from one such position to a later one.
* `Span.Within.exists_piece`: **a span within a text is that of a piece of it**, and the piece is
  what the span cuts out.
* `Span.Within.shift`: a span within a part of a text, seen from the whole text.
-/

namespace Rulebook

theorem byteLength_eq_zero {text : List Char} (h : byteLength text = 0) : text = [] := by
  cases text with
  | nil => rfl
  | cons c cs =>
    have hc := c.utf8Size_pos
    rw [byteLength_cons] at h
    omega

theorem byteLength_pos {text : List Char} (h : text ≠ []) : 0 < byteLength text :=
  Nat.pos_of_ne_zero fun h0 => h (byteLength_eq_zero h0)

/-- Of two ways to cut a text, the one that cuts later has the other one's first part in its own. -/
theorem append_cut {a b c d : List Char} (h : a ++ b = c ++ d)
    (hle : byteLength a ≤ byteLength c) : ∃ mid, c = a ++ mid ∧ b = mid ++ d := by
  rcases List.append_eq_append_iff.1 h with ⟨mid, hc, hb⟩ | ⟨mid, ha, hd⟩
  · exact ⟨mid, hc, hb⟩
  · -- the first cut is not before the second one, so nothing lies between them
    have hmid : mid = [] := by
      apply byteLength_eq_zero
      rw [ha, byteLength_append] at hle
      omega
    subst hmid
    exact ⟨[], by simpa using ha.symm, by simpa using hd.symm⟩

/-- Two ways to cut a text at the same position are the same. -/
theorem append_cut_inj {a b c d : List Char} (h : a ++ b = c ++ d)
    (hlength : byteLength a = byteLength c) : a = c ∧ b = d := by
  obtain ⟨mid, rfl, rfl⟩ := append_cut h (Nat.le_of_eq hlength)
  have hmid : mid = [] := byteLength_eq_zero (by rw [byteLength_append] at hlength; omega)
  subst hmid
  exact ⟨(List.append_nil a).symm, rfl⟩

/-- A position in a text that no character stands across. -/
def IsBoundary (text : List Char) (pos : Nat) : Prop :=
  ∃ before after, text = before ++ after ∧ byteLength before = pos

namespace IsBoundary

variable {text : List Char} {pos : Nat}

theorem le (h : IsBoundary text pos) : pos ≤ byteLength text := by
  obtain ⟨before, after, rfl, rfl⟩ := h
  rw [byteLength_append]
  omega

theorem byteLength_left (before after : List Char) :
    IsBoundary (before ++ after) (byteLength before) := ⟨before, after, rfl, rfl⟩

/-- A boundary stays one when the text stands inside another one. -/
theorem inside (h : IsBoundary text pos) (before after : List Char) :
    IsBoundary (before ++ text ++ after) (pos + byteLength before) := by
  obtain ⟨left, right, rfl, rfl⟩ := h
  refine ⟨before ++ left, right ++ after, by simp, ?_⟩
  rw [byteLength_append, Nat.add_comm]

end IsBoundary

namespace Span

/-- **A span of a text**: both of its ends are boundaries, in order. -/
structure Within (s : Span) (text : List Char) : Prop where
  start_le_stop : s.start ≤ s.stop
  start_boundary : IsBoundary text s.start
  stop_boundary : IsBoundary text s.stop

theorem ofPiece_within (before piece after : List Char) :
    (ofPiece (byteLength before) piece).Within (before ++ piece ++ after) := by
  refine ⟨Nat.le_add_right _ _, ⟨before, piece ++ after, by simp, rfl⟩, ?_⟩
  rw [ofPiece, ← byteLength_append]
  exact .byteLength_left _ _

namespace Within

variable {s : Span} {text : List Char}

theorem stop_le (h : s.Within text) : s.stop ≤ byteLength text := h.stop_boundary.le

/-- **A span of a text is that of a piece of it**, and cuts out the piece. -/
theorem exists_piece (h : s.Within text) :
    ∃ before piece after, text = before ++ piece ++ after ∧
      s = ofPiece (byteLength before) piece ∧ s.slice text = piece := by
  obtain ⟨before, rest, hstart, hbefore⟩ := h.start_boundary
  obtain ⟨upTo, after, hstop, hupTo⟩ := h.stop_boundary
  have hle : byteLength before ≤ byteLength upTo := by
    rw [hbefore, hupTo]; exact h.start_le_stop
  obtain ⟨piece, rfl, hrest⟩ := append_cut (hstart.symm.trans hstop) hle
  have hspan : s = ofPiece (byteLength before) piece := by
    obtain ⟨start, stop⟩ := s
    simp only at hbefore hupTo
    rw [byteLength_append] at hupTo
    rw [ofPiece, hupTo, hbefore]
  refine ⟨before, piece, after, hstop, hspan, ?_⟩
  rw [hspan, hstop]
  exact slice_append before piece after

theorem slice_ne_nil (h : s.Within text) (hlt : s.start < s.stop) : s.slice text ≠ [] := by
  obtain ⟨before, piece, after, -, hs, hslice⟩ := h.exists_piece
  rw [hslice]
  rintro rfl
  rw [hs] at hlt
  exact absurd hlt (Nat.lt_irrefl _)

/-- **A span of a part of a text**, seen from the whole text. It cuts out the same piece. -/
theorem shift (h : s.Within text) (before after : List Char) :
    (s.shift (byteLength before)).Within (before ++ text ++ after) ∧
      (s.shift (byteLength before)).slice (before ++ text ++ after) = s.slice text := by
  refine ⟨⟨?_, h.start_boundary.inside before after, h.stop_boundary.inside before after⟩, ?_⟩
  · exact Nat.add_le_add_right h.start_le_stop _
  · obtain ⟨left, piece, right, rfl, hs, hslice⟩ := h.exists_piece
    have hshift : s.shift (byteLength before) = ofPiece (byteLength (before ++ left)) piece := by
      rw [hs]
      simp only [Span.shift, ofPiece, byteLength_append, Span.mk.injEq]
      omega
    have htext : before ++ (left ++ piece ++ right) ++ after =
        before ++ left ++ piece ++ (right ++ after) := by simp
    rw [hslice, hshift, htext]
    exact slice_append _ _ _

end Within

end Span

end Rulebook
