import Mathlib.Data.List.Nodup
import Rulebook.Proofs.Registry.Offers
import Rulebook.Proofs.Text.Joined

/-!
# The errors of a registration

Every error of a registration names two locations: that of the first offer with the id, which is
the same for all errors with the id, and that of the offer itself, which no other offer has. So
even the messages tell two errors apart.

* `Location.text_injective`: a location can be read off its text.
* `duplicates_first`, `duplicates_again`: the locations that an error names.
* `DuplicateId.again_of_message`: with the first one in common, the second one is told from the
  message.
* `refs_nodup_of_errors`: without errors no id was offered twice.
* `duplicate_inj`: **two errors of a registration differ in the collection, the id or the message.**
-/

namespace Rulebook

theorem Location.text_injective {l l' : Location} (h : l.text = l'.text) : l = l' := by
  obtain ⟨origin, index⟩ := l
  obtain ⟨origin', index'⟩ := l'
  have hindex := (String.append_left_inj "]").1 h
  obtain ⟨rfl, rfl⟩ := append_number "[" [] rfl rfl hindex
  rfl

/-- **The first location that an error names** is that of the first offer with the id. -/
theorem duplicates_first (ls : List (Offer × Location)) : ∀ e ∈ duplicates ls,
    (firstAt ⟨e.collection, e.id⟩ ls).map (·.2) = some e.first := by
  induction ls using List.reverseRecOn with
  | nil => intro e he; cases he
  | append_singleton ls p ih =>
    obtain ⟨o, l⟩ := p
    intro e he
    rw [firstAt_concat]
    rw [duplicates_concat] at he
    -- what is the first offer so far stays the first
    rcases List.mem_append.1 he with he | he
    · obtain ⟨first, hfirst, hlocation⟩ := Option.map_eq_some_iff.1 (ih e he)
      rw [hfirst, Option.some_or, Option.map_some, hlocation]
    · obtain ⟨first, hfirst, rfl⟩ := Option.map_eq_some_iff.1 (Option.mem_toList.1 he)
      have hfirst : firstAt ⟨o.collection, o.entry.id⟩ ls = some first := hfirst
      rw [hfirst, Option.some_or, Option.map_some]

/-- **The second location that an error names** is that of its offer. -/
theorem duplicates_again (ls : List (Offer × Location)) :
    ((duplicates ls).map (·.again)).Sublist (ls.map (·.2)) := by
  induction ls using List.reverseRecOn with
  | nil => exact List.Sublist.slnil
  | append_singleton ls p ih =>
    obtain ⟨o, l⟩ := p
    rw [duplicates_concat, List.map_append, List.map_append]
    refine ih.append ?_
    cases firstAt o.ref ls with
    | none => exact List.nil_sublist _
    | some first => exact List.Sublist.refl _

/-- Errors that have the id and the first location in common are told apart by their messages. -/
theorem DuplicateId.again_of_message {e e' : DuplicateId}
    (hcollection : e.collection = e'.collection) (hid : e.id = e'.id) (hfirst : e.first = e'.first)
    (hmessage : e.message = e'.message) : e.again = e'.again := by
  unfold DuplicateId.message at hmessage
  rw [hcollection, hid, hfirst] at hmessage
  have hend := (String.append_right_inj _).1 hmessage
  exact Location.text_injective ((String.append_right_inj "again at ").1 hend)

/-- An error is determined by its collection, its id and its message. -/
theorem duplicate_inj {batches : List Batch} {e e' : DuplicateId}
    (h : e ∈ (Registry.ofBatches batches).errors) (h' : e' ∈ (Registry.ofBatches batches).errors)
    (hcollection : e.collection = e'.collection) (hid : e.id = e'.id)
    (hmessage : e.message = e'.message) : e = e' := by
  have herrors : (Registry.ofBatches batches).errors = duplicates (located (offers batches)) :=
    (ofBatches_tracks batches).errors
  rw [herrors] at h h'
  -- both errors name the first offer with their id
  have hsome := duplicates_first _ _ h
  rw [hcollection, hid, duplicates_first _ _ h', Option.some.injEq] at hsome
  have hagain := DuplicateId.again_of_message hcollection hid hsome.symm hmessage
  cases e
  cases e'
  simp_all

theorem errors_nodup (batches : List Batch) : (Registry.ofBatches batches).errors.Nodup := by
  have herrors : (Registry.ofBatches batches).errors = duplicates (located (offers batches)) :=
    (ofBatches_tracks batches).errors
  rw [herrors]
  exact .of_map _ ((located_nodup (offers batches)).sublist (duplicates_again _))

theorem located_map_fst (os : List Offer) : (located os).map (·.1) = os := by
  induction os using List.reverseRecOn with
  | nil => rfl
  | append_singleton os o ih => rw [located_concat, List.map_append, ih]; rfl

/-- **Without errors no id was offered twice** in one collection. -/
theorem refs_nodup_of_errors {batches : List Batch} (h : (Registry.ofBatches batches).errors = []) :
    ((offers batches).map (·.ref)).Nodup := by
  have key : ∀ os : List Offer, duplicates (located os) = [] → (os.map (·.ref)).Nodup := by
    intro os
    induction os using List.reverseRecOn with
    | nil => exact fun _ => List.nodup_nil
    | append_singleton os o ih =>
      intro h
      rw [located_concat, duplicates_concat] at h
      obtain ⟨hearlier, hlast⟩ := List.append_eq_nil_iff.1 h
      -- the last offer is no error, so that no earlier one has its reference
      have hfirst : firstAt o.ref (located os) = none := by simpa using hlast
      rw [List.map_append, List.nodup_append]
      refine ⟨ih hearlier, List.nodup_singleton _, ?_⟩
      intro ref href _ ho heq
      cases List.mem_singleton.1 ho
      obtain ⟨o', ho', rfl⟩ := List.mem_map.1 href
      rw [← located_map_fst os] at ho'
      obtain ⟨p, hp, rfl⟩ := List.mem_map.1 ho'
      exact absurd heq (by simpa using List.find?_eq_none.1 hfirst p hp)
  refine key _ ?_
  rw [← (ofBatches_tracks batches).errors]
  exact h

end Rulebook
