import Mathlib.Data.List.Forall2
import Rulebook.Proofs.Registry.Offers

/-!
# Registries of edited entries

An entry is edited where it stands: it keeps its id, its collection and its place among the offers.
So the registration takes the same course. It finds the same duplicates, and holds the same entries
at the same locations, but for the body of the one that was edited.

* `Edited`: batches in which what is found under one reference was edited.
* `Draft.EditedAt`: drafts that differ at most in the body of the entry under a reference.
  `offer_edited` keeps this for one entry, `register_edited` for a batch and `registered_edited` for
  all batches.
* `Registry.EditedAt`, `ofBatches_edited`: **a registry of edited batches is as it was**, apart from
  what was edited.
-/

namespace Rulebook

open Std

/-- An entry after an edit of what is found under a reference. An entry that is found there may have
any other body, but it keeps its id. -/
def Entry.Edited (ref : Reference) (c : Collection) (e e' : Entry) : Prop :=
  e' = e ∨ ((⟨c, e.id⟩ : Reference) = ref ∧ e'.id = e.id)

theorem Entry.Edited.id {ref : Reference} {c : Collection} {e e' : Entry} (h : e.Edited ref c e') :
    e'.id = e.id := by
  rcases h with rfl | ⟨-, hid⟩
  · rfl
  · exact hid

/-- A batch after an edit of what is found under a reference. -/
structure Batch.Edited (ref : Reference) (b b' : Batch) : Prop where
  collection : b'.collection = b.collection
  origin : b'.origin = b.origin
  entries : List.Forall₂ (Entry.Edited ref b.collection) b.entries b'.entries

/-- **Batches in which what is found under a reference was edited.** -/
def Edited (ref : Reference) : List Batch → List Batch → Prop := List.Forall₂ (Batch.Edited ref)

/-- **Drafts that differ at most in the body of the entry under a reference.** -/
structure Draft.EditedAt (ref : Reference) (d d' : Draft) : Prop where
  table : ∀ ref', ref' ≠ ref → d'.registry.table[ref']? = d.registry.table[ref']?
  location : ∀ ref' : Reference, d'.registry.table[ref']?.map (·.location) =
    d.registry.table[ref']?.map (·.location)
  errors : d'.registry.errors = d.registry.errors
  offered : d'.offered = d.offered

/-- **Registries that differ at most in the body of the entry under a reference.** -/
structure Registry.EditedAt (ref : Reference) (r r' : Registry) : Prop where
  get? : ∀ c id, (⟨c, id⟩ : Reference) ≠ ref → r'.get? c id = r.get? c id
  isSome : ∀ c id, (r'.get? c id).isSome = (r.get? c id).isSome
  location? : ∀ c id, r'.location? c id = r.location? c id
  errors : r'.errors = r.errors

namespace Draft

variable {ref : Reference}

theorem EditedAt.refl (ref : Reference) (d : Draft) : d.EditedAt ref d :=
  ⟨fun _ _ => rfl, fun _ => rfl, rfl, rfl⟩

/-- The error of an offer names the location of what is there, and not its body. -/
theorem error?_eq (d : Draft) (c : Collection) (origin : String) (e : Entry) :
    d.error? c origin e = (d.registry.table[(⟨c, e.id⟩ : Reference)]?.map (·.location)).map
      fun first => ⟨c, e.id, first, d.next origin⟩ := by
  unfold error?
  rw [Option.map_map]
  rfl

/-- **An offer of an edited entry** takes the place of the one it was. -/
theorem offer_edited {d d' : Draft} (h : d.EditedAt ref d') {c : Collection} {e e' : Entry}
    (he : e.Edited ref c e') (origin : String) :
    (d.offer c origin e).EditedAt ref (d'.offer c origin e') := by
  have hnext : d'.next origin = d.next origin := by
    unfold next
    rw [h.offered]
  refine ⟨fun ref' hne => ?_, fun ref' => ?_, ?_, ?_⟩
  · rw [offer_table, offer_table, h.table ref' hne, hnext, he.id]
    rcases he with rfl | ⟨href, -⟩
    · rfl
    · -- an entry with another body is not found under another reference
      have hother : (⟨c, e.id⟩ : Reference) ≠ ref' := fun heq => hne (heq.symm.trans href)
      rw [if_neg hother, if_neg hother]
  · rw [offer_table, offer_table, Option.map_or, Option.map_or, h.location ref', hnext, he.id]
    by_cases href : (⟨c, e.id⟩ : Reference) = ref'
    · rw [if_pos href, if_pos href]
      rfl
    · rw [if_neg href, if_neg href]
  · -- an error names locations, which are the same
    rw [offer_errors, offer_errors, error?_eq, error?_eq, he.id, h.location, h.errors, hnext]
  · rw [offer_offered, offer_offered, h.offered]

theorem offers_edited {c : Collection} {entries entries' : List Entry}
    (hentries : List.Forall₂ (Entry.Edited ref c) entries entries') (origin : String)
    {d d' : Draft} (h : d.EditedAt ref d') :
    (entries.foldl (offer c origin) d).EditedAt ref (entries'.foldl (offer c origin) d') := by
  induction hentries generalizing d d' with
  | nil => exact h
  | cons he _ ih => exact ih (offer_edited h he origin)

/-- **A batch of edited entries** takes the place of the one it was. -/
theorem register_edited {d d' : Draft} (h : d.EditedAt ref d') {b b' : Batch}
    (hb : b.Edited ref b') : (d.register b).EditedAt ref (d'.register b') := by
  unfold register
  rw [hb.collection, hb.origin]
  exact offers_edited hb.entries b.origin h

/-- **Edited batches make drafts that differ at most in what was edited.** -/
theorem registered_edited {batches batches' : List Batch} (hbatches : Edited ref batches batches')
    {d d' : Draft} (h : d.EditedAt ref d') :
    (batches.foldl register d).EditedAt ref (batches'.foldl register d') := by
  induction hbatches generalizing d d' with
  | nil => exact h
  | cons hb _ ih => exact ih (register_edited h hb)

theorem EditedAt.freeze {d d' : Draft} (h : d.EditedAt ref d') :
    d.freeze.EditedAt ref d'.freeze where
  get? c id hne := congrArg (Option.map Registered.entry) (h.table ⟨c, id⟩ hne)
  isSome c id := by
    have hsome := congrArg Option.isSome (h.location ⟨c, id⟩)
    rw [Option.isSome_map, Option.isSome_map] at hsome
    show (Option.map _ _).isSome = (Option.map _ _).isSome
    rw [Option.isSome_map, Option.isSome_map]
    exact hsome
  location? c id := h.location ⟨c, id⟩
  errors := h.errors

end Draft

/-- **A registry of edited batches is as it was**, apart from the body of what was edited. -/
theorem ofBatches_edited {ref : Reference} {batches batches' : List Batch}
    (h : Edited ref batches batches') :
    (Registry.ofBatches batches).EditedAt ref (.ofBatches batches') :=
  (Draft.registered_edited h (.refl ref {})).freeze

end Rulebook
