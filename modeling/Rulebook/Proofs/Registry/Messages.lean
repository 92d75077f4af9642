import Rulebook.Proofs.Registry.Duplicates

/-!
# Places in messages

A reference is told from its text, because no collection has a slash in its name, and a location
from its text, because the index stands in the last brackets. An error of the registration puts two
locations into one message. The label of an origin can hold the words between them, and then they
do not say where the first location ends.

* `Reference.text_injective`: a reference can be read off its text.
* `CutsBefore`: one message is cut into two locations in two ways.
* `message_eq_iff`: **when errors with one id have one message.**
* `CutsBefore.labels`: the labels that let a message be cut in two ways.
* `places_told_apart`: **places are told apart by their texts**, and the errors of a registry with
  one id by their messages.
* `messages_coincide`: the errors of two registries are not.
-/

namespace Rulebook

theorem Collection.slash_not_mem_name (c : Collection) : '/' ∉ c.name.toList := by
  cases c <;> decide

/-- A reference can be read off its text: the first slash stands behind the collection. -/
theorem Reference.text_injective {r r' : Reference} (h : r.text = r'.text) : r = r' := by
  obtain ⟨c, id⟩ := r
  obtain ⟨c', id'⟩ := r'
  have htext : c.name ++ "/" ++ id = c'.name ++ "/" ++ id' := h
  have hslash (c : Collection) (start mid : String) : c.name ≠ start ++ "/" ++ mid := by
    intro hname
    refine c.slash_not_mem_name ?_
    rw [hname]
    simp
  -- one of the names would have the slash in it if they were cut at different places
  rcases (append_piece_iff rfl List.not_mem_nil).1 htext with
    ⟨hname, rfl⟩ | ⟨mid, hname, -⟩ | ⟨mid, hname, -⟩
  · rw [Collection.name_injective hname]
  · exact absurd hname (hslash c' c.name mid)
  · exact absurd hname (hslash c c'.name mid)

/-! ## Errors of the registration -/

namespace DuplicateId

/-- The words between the two locations of an error. -/
def between : String := ", again at "

theorem message_eq (e : DuplicateId) : e.message =
    "duplicate id '" ++ e.id ++ "' in " ++ e.collection.name ++ ": first registered at " ++
      (e.first.text ++ between ++ e.again.text) := by
  have hbetween : between = ", " ++ "again at " := by decide
  unfold message
  rw [hbetween]
  simp only [toString, String.append_assoc]

/-- **One message for two errors**: the words between the locations stand in it twice, the first
error ends its first location at the first of these places and the second error at the second. -/
def CutsBefore (e e' : DuplicateId) : Prop :=
  ∃ mid, e'.first.text = e.first.text ++ between ++ mid ∧
    e.again.text = mid ++ between ++ e'.again.text

/-- **When errors with one id have one message**: they name the same locations, or the message is
cut in two ways. -/
theorem message_eq_iff {e e' : DuplicateId} (hcollection : e.collection = e'.collection)
    (hid : e.id = e'.id) : e.message = e'.message ↔
      (e.first = e'.first ∧ e.again = e'.again) ∨ e.CutsBefore e' ∨ e'.CutsBefore e := by
  have hpiece : between.toList = ',' :: " again at ".toList := rfl
  rw [message_eq, message_eq, hcollection, hid, String.append_right_inj,
    append_piece_iff hpiece (by decide)]
  refine or_congr ⟨?_, ?_⟩ Iff.rfl
  · rintro ⟨hfirst, hagain⟩
    exact ⟨Location.text_injective hfirst, Location.text_injective hagain⟩
  · rintro ⟨hfirst, hagain⟩
    exact ⟨congrArg _ hfirst, congrArg _ hagain⟩

end DuplicateId

open DuplicateId (between)

/-- If the text of a location has the words in it, its label has: there is no blank behind that. -/
theorem between_infix_origin {l : Location} {before after : String}
    (h : l.text = before ++ between ++ after) : between.toList <:+: l.origin.toList := by
  have hdigits : ' ' ∉ Nat.toDigits 10 l.index := by
    intro hmem
    have hdigit := Nat.isDigit_of_mem_toDigits (by omega) (by omega) hmem
    exact absurd hdigit (by decide)
  have hlist := congrArg String.toList h
  have hcut : l.origin.toList ++ ('[' :: (Nat.toDigits 10 l.index ++ [']'])) =
      before.toList ++ (", again at".toList ++ [' ']) ++ after.toList := by
    simpa [Location.text, toString, between] using hlist
  exact infix_of_append (by simp [hdigits]) hcut

/-- **The labels that let a message be cut in two ways** have the words between the locations in
them: one is that of a first location, the other one that of a second location. -/
theorem DuplicateId.CutsBefore.labels {e e' : DuplicateId} (h : e.CutsBefore e') :
    between.toList <:+: e'.first.origin.toList ∧ between.toList <:+: e.again.origin.toList := by
  obtain ⟨mid, hfirst, hagain⟩ := h
  exact ⟨between_infix_origin hfirst, between_infix_origin hagain⟩

/-- **Places are told apart by their texts**: locations, whatever is in their labels, and
references, whatever is in their ids. Two errors with one id that name different second locations
have one message only if it can be cut into locations in two ways. So they have different messages
if they name the same first location, as two errors of one registry do, and if no label has the
words in it that stand between the locations. -/
theorem places_told_apart :
    (∀ l l' : Location, l.text = l'.text → l = l') ∧
    (∀ r r' : Reference, r.text = r'.text → r = r') ∧
    (∀ e e' : DuplicateId, e.collection = e'.collection → e.id = e'.id → e.again ≠ e'.again →
      (e.message = e'.message ↔ e.CutsBefore e' ∨ e'.CutsBefore e) ∧
      (e.first = e'.first → e.message ≠ e'.message) ∧
      ∀ batches, e ∈ (Registry.ofBatches batches).errors →
        e' ∈ (Registry.ofBatches batches).errors → e.message ≠ e'.message) ∧
    ∀ e e' : DuplicateId, e.CutsBefore e' →
      between.toList <:+: e'.first.origin.toList ∧ between.toList <:+: e.again.origin.toList := by
  refine ⟨fun _ _ => Location.text_injective, fun _ _ => Reference.text_injective, ?_,
    fun _ _ => DuplicateId.CutsBefore.labels⟩
  intro e e' hcollection hid hagain
  refine ⟨?_, ?_, ?_⟩
  · rw [DuplicateId.message_eq_iff hcollection hid]
    exact or_iff_right fun hsame => hagain hsame.2
  · intro hfirst hmessage
    exact hagain (DuplicateId.again_of_message hcollection hid hfirst hmessage)
  · intro batches he he' hmessage
    exact hagain (congrArg _ (duplicate_inj he he' hcollection hid hmessage))

/-- One rope from an origin. -/
def rope (origin : String) : Batch := ⟨.items, origin, [.record { id := "rope" }]⟩

/-- A rope for which the first one from `a` is there already. -/
def ropeAgain (again : Location) : DuplicateId := ⟨.items, "rope", ⟨"a", 0⟩, again⟩

/-- Two errors of one registry have different messages, also where the label of one imitates a
message. -/
theorem places_told_apart_ropes :
    ropeAgain ⟨"a", 1⟩ ∈
      (Registry.ofBatches [rope "a", rope "a", rope "a[0], again at a"]).errors ∧
    ropeAgain ⟨"a[0], again at a", 0⟩ ∈
      (Registry.ofBatches [rope "a", rope "a", rope "a[0], again at a"]).errors ∧
    (ropeAgain ⟨"a", 1⟩).message ≠ (ropeAgain ⟨"a[0], again at a", 0⟩).message := by
  have h : ropeAgain ⟨"a", 1⟩ ∈
      (Registry.ofBatches [rope "a", rope "a", rope "a[0], again at a"]).errors := by decide
  have h' : ropeAgain ⟨"a[0], again at a", 0⟩ ∈
      (Registry.ofBatches [rope "a", rope "a", rope "a[0], again at a"]).errors := by decide
  have hmessages := places_told_apart.2.2.1 (ropeAgain ⟨"a", 1⟩) (ropeAgain ⟨"a[0], again at a", 0⟩)
    rfl rfl (by decide)
  exact ⟨h, h', hmessages.2.2 _ h h'⟩

/-- **The errors of two registries can have one message.** In the first one a rope comes from `a`
and one from `b[0], again at c`, in the second one from `a[0], again at b` and from `c`. -/
theorem messages_coincide :
    (∃ e ∈ (Registry.ofBatches [rope "a", rope "b[0], again at c"]).errors,
      ∃ e' ∈ (Registry.ofBatches [rope "a[0], again at b", rope "c"]).errors,
        e.collection = e'.collection ∧ e.id = e'.id ∧ e.again ≠ e'.again ∧
          e.message = e'.message) ∧
    ¬ ∀ e e' : DuplicateId, e.collection = e'.collection → e.id = e'.id → e.again ≠ e'.again →
      e.message ≠ e'.message := by
  let e : DuplicateId := ⟨.items, "rope", ⟨"a", 0⟩, ⟨"b[0], again at c", 0⟩⟩
  let e' : DuplicateId := ⟨.items, "rope", ⟨"a[0], again at b", 0⟩, ⟨"c", 0⟩⟩
  have hcollection : e.collection = e'.collection := rfl
  have hid : e.id = e'.id := rfl
  have hagain : e.again ≠ e'.again := by decide
  have hcuts : e.CutsBefore e' := ⟨"b[0]", by decide, by decide⟩
  have hmessage := (DuplicateId.message_eq_iff hcollection hid).2 (.inr (.inl hcuts))
  refine ⟨⟨e, by decide, e', by decide, hcollection, hid, hagain, hmessage⟩, ?_⟩
  intro h
  exact h e e' hcollection hid hagain hmessage

end Rulebook
