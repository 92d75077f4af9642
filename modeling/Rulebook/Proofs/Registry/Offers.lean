import Mathlib.Data.List.Induction
import Rulebook.Registry.Basic

/-!
# What a registry makes of its offers

The batches of a registration are read here as one list of offered entries, and the registry is
described by that list alone.

* `Offer`, `offers`: the entries in the order they are offered.
* `located`: each of them with its location: how many offers of its origin came before it.
* `firstAt`, `duplicates`: the first offer with an id, and the errors for the later ones.
* `Draft.offer_table`, `Draft.offer_errors`, `Draft.offer_offered`: what an offer changes.
* `Draft.Tracks`: the invariant of the registration. `offer_tracks` keeps it for one entry,
  `register_tracks` for a batch and `ofBatches_tracks` for all batches.
* `ofBatches_offers`: **a registry holds the first offer with each id and reports every other one.**
-/

namespace Rulebook

/-- An entry that is offered to a registry: into a collection, and from an origin. -/
structure Offer where
  collection : Collection
  origin : String
  entry : Entry
  deriving DecidableEq

/-- The reference that the entry is found under. -/
def Offer.ref (o : Offer) : Reference := ⟨o.collection, o.entry.id⟩

/-- The offers of a batch. -/
def Batch.offers (b : Batch) : List Offer := b.entries.map (⟨b.collection, b.origin, ·⟩)

/-- The offers of all batches, in order. -/
def offers (batches : List Batch) : List Offer := batches.flatMap Batch.offers

/-- Each element of a list with those before it. -/
def withEarlier {α : Type} (l : List α) : List (List α × α) :=
  l.zipIdx.map fun (a, i) => (l.take i, a)

/-- How many of some offers come from an origin. -/
def countFrom (os : List Offer) (origin : String) : Nat := os.countP (·.origin = origin)

/-- Each offer with its location: its origin, and how many offers of the origin came before it. -/
def located (os : List Offer) : List (Offer × Location) :=
  (withEarlier os).map fun (earlier, o) => (o, ⟨o.origin, countFrom earlier o.origin⟩)

/-- The first offer that is found under a reference. -/
def firstAt (ref : Reference) (ls : List (Offer × Location)) : Option (Offer × Location) :=
  ls.find? (·.1.ref = ref)

/-- One error for every offer with an id that an earlier one has: it names the first of them. -/
def duplicates (ls : List (Offer × Location)) : List DuplicateId :=
  (withEarlier ls).filterMap fun (earlier, o, l) =>
    (firstAt o.ref earlier).map fun first => ⟨o.collection, o.entry.id, first.2, l⟩

/-! ## One more offer -/

theorem withEarlier_concat {α : Type} (l : List α) (a : α) :
    withEarlier (l ++ [a]) = withEarlier l ++ [(l, a)] := by
  unfold withEarlier
  rw [List.zipIdx_append, List.map_append]
  congr 1
  · -- what stood before an old element still does
    apply List.map_congr_left
    rintro ⟨b, i⟩ hb
    have hi : i < l.length := (List.mem_zipIdx' hb).1
    simp only [List.take_append_of_le_length (Nat.le_of_lt hi)]
  · simp

theorem countFrom_concat (os : List Offer) (o : Offer) (origin : String) :
    countFrom (os ++ [o]) origin = countFrom os origin + if o.origin = origin then 1 else 0 := by
  unfold countFrom
  rw [List.countP_append]
  by_cases h : o.origin = origin <;> simp [h]

theorem located_concat (os : List Offer) (o : Offer) :
    located (os ++ [o]) = located os ++ [(o, ⟨o.origin, countFrom os o.origin⟩)] := by
  unfold located
  rw [withEarlier_concat, List.map_append]; rfl

theorem firstAt_concat (ref : Reference) (ls : List (Offer × Location)) (l : Offer × Location) :
    firstAt ref (ls ++ [l]) = (firstAt ref ls).or (if l.1.ref = ref then some l else none) := by
  unfold firstAt
  rw [List.find?_append]
  by_cases h : l.1.ref = ref <;> simp [h]

theorem duplicates_concat (ls : List (Offer × Location)) (o : Offer) (l : Location) :
    duplicates (ls ++ [(o, l)]) = duplicates ls ++
      ((firstAt o.ref ls).map fun first => ⟨o.collection, o.entry.id, first.2, l⟩).toList := by
  unfold duplicates
  rw [withEarlier_concat, List.filterMap_append]
  congr 1

/-! ## What an offer changes -/

/-- What an offer makes of a draft whose collection has no such id. -/
theorem offer_of_none {c : Collection} {origin : String} {d : Draft} {e : Entry}
    (h : d.registry.table[(⟨c, e.id⟩ : Reference)]? = none) :
    d.offer c origin e = ⟨⟨d.registry.table.insert ⟨c, e.id⟩ ⟨e, ⟨origin, d.offered.getD origin 0⟩⟩,
      d.registry.errors⟩, d.offered.insert origin (d.offered.getD origin 0 + 1)⟩ := by
  unfold Draft.offer
  rw [Std.ExtTreeMap.get?_eq_getElem?, h]

/-- What an offer makes of a draft whose collection has the id already. -/
theorem offer_of_some {c : Collection} {origin : String} {d : Draft} {e : Entry}
    {first : Registered} (h : d.registry.table[(⟨c, e.id⟩ : Reference)]? = some first) :
    d.offer c origin e = ⟨⟨d.registry.table, d.registry.errors ++
      [⟨c, e.id, first.location, ⟨origin, d.offered.getD origin 0⟩⟩]⟩,
      d.offered.insert origin (d.offered.getD origin 0 + 1)⟩ := by
  unfold Draft.offer
  rw [Std.ExtTreeMap.get?_eq_getElem?, h]

namespace Draft

section

variable (d : Draft) (c : Collection) (origin : String) (e : Entry)

/-- The location that the next offer of an origin gets. -/
def next : Location := ⟨origin, d.offered.getD origin 0⟩

/-- The error of an offer, if its collection has an entry with the id already. -/
def error? : Option DuplicateId :=
  d.registry.table[(⟨c, e.id⟩ : Reference)]?.map fun first =>
    ⟨c, e.id, first.location, d.next origin⟩

/-- An offer goes into the table if nothing is there under its reference. -/
theorem offer_table (ref : Reference) : (d.offer c origin e).registry.table[ref]? =
    d.registry.table[ref]?.or (if ⟨c, e.id⟩ = ref then some ⟨e, d.next origin⟩ else none) := by
  cases hfirst : d.registry.table[(⟨c, e.id⟩ : Reference)]? with
  | none =>
    rw [offer_of_none hfirst]
    show (d.registry.table.insert _ _)[ref]? = _
    rw [Std.ExtTreeMap.getElem?_insert]
    by_cases href : (⟨c, e.id⟩ : Reference) = ref
    · subst href
      simp [hfirst, next]
    · rw [if_neg (by simpa using href), if_neg href, Option.or_none]
  | some first =>
    rw [offer_of_some hfirst]
    by_cases href : (⟨c, e.id⟩ : Reference) = ref
    · subst href
      simp [hfirst]
    · rw [if_neg href, Option.or_none]

/-- An offer has an error if something is there under its reference. -/
theorem offer_errors : (d.offer c origin e).registry.errors =
    d.registry.errors ++ (d.error? c origin e).toList := by
  unfold error?
  cases hfirst : d.registry.table[(⟨c, e.id⟩ : Reference)]? with
  | none =>
    rw [offer_of_none hfirst]
    simp
  | some first =>
    rw [offer_of_some hfirst]
    rfl

/-- An offer takes an index of its origin, whether or not it is an error. -/
theorem offer_offered : (d.offer c origin e).offered =
    d.offered.insert origin (d.offered.getD origin 0 + 1) := by
  cases hfirst : d.registry.table[(⟨c, e.id⟩ : Reference)]? with
  | none => rw [offer_of_none hfirst]
  | some first => rw [offer_of_some hfirst]

end

end Draft

/-! ## The invariant of the registration -/

/-- **A draft that has seen some offers**: it holds the first one under each reference, has an error
for each other one, and has counted the offers of each origin. -/
structure Draft.Tracks (d : Draft) (os : List Offer) : Prop where
  table : ∀ ref : Reference, d.registry.table[ref]? =
    (firstAt ref (located os)).map fun (o, l) => ⟨o.entry, l⟩
  errors : d.registry.errors = duplicates (located os)
  offered : ∀ origin : String, d.offered.getD origin 0 = countFrom os origin
  size : d.registry.table.size + d.registry.errors.length = os.length

theorem empty_tracks : Draft.Tracks {} [] where
  table _ := Std.ExtTreeMap.getElem?_empty
  errors := rfl
  offered _ := Std.ExtTreeMap.getD_empty
  size := by simp

/-- **One more offer keeps the invariant.** -/
theorem offer_tracks {d : Draft} {os : List Offer} (h : d.Tracks os) (o : Offer) :
    (d.offer o.collection o.origin o.entry).Tracks (os ++ [o]) := by
  have hcount : ∀ origin : String, (d.offered.insert o.origin
      (d.offered.getD o.origin 0 + 1)).getD origin 0 = countFrom (os ++ [o]) origin := by
    intro origin
    rw [Std.ExtTreeMap.getD_insert, countFrom_concat, h.offered, h.offered]
    by_cases ho : o.origin = origin
    · subst ho
      simp
    · rw [if_neg (by simpa using ho), if_neg ho, Nat.add_zero]
  have htable := h.table o.ref
  -- the table holds the first offer under each reference, so it says which one this is
  cases hf : firstAt o.ref (located os) with
  | none =>
    -- the first offer under its reference goes into the table
    rw [hf, Option.map_none] at htable
    rw [offer_of_none htable]
    refine ⟨?_, ?_, hcount, ?_⟩
    · intro ref
      show (d.registry.table.insert o.ref _)[ref]? = _
      rw [Std.ExtTreeMap.getElem?_insert, located_concat, firstAt_concat, h.offered]
      by_cases href : o.ref = ref
      · subst href
        simp [hf]
      · rw [if_neg (by simpa using href), if_neg href, Option.or_none, h.table ref]
    · rw [located_concat, duplicates_concat, hf]
      simp [h.errors]
    · have hnew : o.ref ∉ d.registry.table := by
        rw [Std.ExtTreeMap.mem_iff_isSome_getElem?, htable]; simp
      have hsize := h.size
      show (d.registry.table.insert o.ref _).size + d.registry.errors.length = _
      rw [Std.ExtTreeMap.size_insert, if_neg (by simpa using hnew), List.length_append]
      simp only [List.length_singleton]
      omega
  | some first =>
    -- a later one is an error, and the table stays as it is
    rw [hf, Option.map_some] at htable
    rw [offer_of_some htable]
    refine ⟨?_, ?_, hcount, ?_⟩
    · intro ref
      show d.registry.table[ref]? = _
      rw [located_concat, firstAt_concat, h.table ref]
      by_cases href : o.ref = ref
      · subst href
        rw [hf, Option.some_or]
      · rw [if_neg href, Option.or_none]
    · rw [located_concat, duplicates_concat, hf, h.offered, h.errors]; rfl
    · have hsize := h.size
      simp only [List.length_append, List.length_singleton]
      omega

/-- One more batch keeps the invariant. -/
theorem register_tracks {d : Draft} {os : List Offer} (h : d.Tracks os) (b : Batch) :
    (d.register b).Tracks (os ++ b.offers) := by
  have key : ∀ (es : List Entry) (d : Draft) (os : List Offer), d.Tracks os →
      (es.foldl (Draft.offer b.collection b.origin) d).Tracks
        (os ++ es.map (⟨b.collection, b.origin, ·⟩)) := by
    intro es
    induction es with
    | nil => intro d os h; rw [List.map_nil, List.append_nil]; exact h
    | cons e es ih =>
      intro d os h
      rw [List.foldl_cons, List.map_cons, List.append_cons]
      exact ih _ _ (offer_tracks h ⟨b.collection, b.origin, e⟩)
  exact key b.entries d os h

/-- **All batches keep the invariant**: what is frozen has seen all offers. -/
theorem ofBatches_tracks (batches : List Batch) :
    (batches.foldl Draft.register {}).Tracks (offers batches) := by
  have key : ∀ (bs : List Batch) (d : Draft) (os : List Offer), d.Tracks os →
      (bs.foldl Draft.register d).Tracks (os ++ offers bs) := by
    intro bs
    induction bs with
    | nil => intro d os h; rw [offers, List.flatMap_nil, List.append_nil]; exact h
    | cons b bs ih =>
      intro d os h
      rw [List.foldl_cons, offers, List.flatMap_cons, ← List.append_assoc]
      exact ih _ _ (register_tracks h b)
  exact key batches {} [] empty_tracks

/-! ## Locations -/

/-- A located offer is one of those that its origin has offered so far. -/
theorem located_bound (os : List Offer) :
    ∀ p ∈ located os, p.2.origin = p.1.origin ∧ p.2.index < countFrom os p.2.origin := by
  induction os using List.reverseRecOn with
  | nil => intro p hp; cases hp
  | append_singleton os o ih =>
    intro p hp
    rw [located_concat] at hp
    rw [countFrom_concat]
    rcases List.mem_append.1 hp with hp | hp
    · obtain ⟨horigin, hindex⟩ := ih p hp
      exact ⟨horigin, by omega⟩
    · cases List.mem_singleton.1 hp
      refine ⟨rfl, ?_⟩
      simp

/-- **No two offers have the same location.** -/
theorem located_nodup (os : List Offer) : ((located os).map (·.2)).Nodup := by
  induction os using List.reverseRecOn with
  | nil => exact List.nodup_nil
  | append_singleton os o ih =>
    rw [located_concat, List.map_append, List.nodup_append]
    refine ⟨ih, by simp, ?_⟩
    intro l hl l' hl' heq
    obtain ⟨p, hp, rfl⟩ := List.mem_map.1 hl
    cases List.mem_singleton.1 hl'
    -- the new index is the number of offers so far, above all of theirs
    have hindex := (located_bound os p hp).2
    rw [heq] at hindex
    exact absurd hindex (Nat.lt_irrefl _)

/-! ## The frozen registry -/

theorem firstAt_ref {ref : Reference} {ls : List (Offer × Location)} {p : Offer × Location}
    (h : firstAt ref ls = some p) : p.1.ref = ref := by
  simpa using List.find?_some h

/-- What a registry lists is what it holds. -/
theorem mem_entries_iff {r : Registry} {ref : Reference} {e : Entry} :
    (ref, e) ∈ r.entries ↔ r.get? ref.collection ref.id = some e := by
  unfold Registry.entries Registry.get?
  rw [List.mem_map, Option.map_eq_some_iff]
  constructor
  · rintro ⟨⟨ref', x⟩, hmem, heq⟩
    cases heq
    exact ⟨x, Std.ExtTreeMap.mem_toList_iff_getElem?_eq_some.1 hmem, rfl⟩
  · rintro ⟨x, hx, rfl⟩
    exact ⟨(ref, x), Std.ExtTreeMap.mem_toList_iff_getElem?_eq_some.2 hx, rfl⟩

/-- A registry lists its entries by their references, each one once. -/
theorem entries_ascend (r : Registry) :
    r.entries.Pairwise fun a b => compare a.1 b.1 = .lt := by
  unfold Registry.entries
  rw [List.pairwise_map]
  exact Std.ExtTreeMap.ordered_keys_toList

/-- What is held under an id, with its location, is the first offer with it. -/
theorem held_ofBatches (batches : List Batch) (c : Collection) (id : String) :
    (Registry.ofBatches batches).get? c id =
        (firstAt ⟨c, id⟩ (located (offers batches))).map (·.1.entry) ∧
      (Registry.ofBatches batches).location? c id =
        (firstAt ⟨c, id⟩ (located (offers batches))).map (·.2) := by
  have h := (ofBatches_tracks batches).table ⟨c, id⟩
  change (Registry.ofBatches batches).table.get? ⟨c, id⟩ = _ at h
  rw [Registry.get?, Registry.location?, h, Option.map_map, Option.map_map]
  exact ⟨rfl, rfl⟩

/-- An entry is held under its own id. -/
theorem id_of_get? {batches : List Batch} {c : Collection} {id : String} {e : Entry}
    (h : (Registry.ofBatches batches).get? c id = some e) : e.id = id := by
  rw [(held_ofBatches batches c id).1] at h
  obtain ⟨p, hp, rfl⟩ := Option.map_eq_some_iff.1 h
  exact congrArg Reference.id (firstAt_ref hp)

/-- **A registry is what its offers make of it.** It holds the first offer with each id of a
collection, with its location, and has one error for each other one, in order; together they are all
offers, and no two of them have the same location. It lists each entry that it holds once, by
collection and id, under the id of the entry. -/
theorem ofBatches_offers (batches : List Batch) :
    (∀ c id, (Registry.ofBatches batches).get? c id =
        (firstAt ⟨c, id⟩ (located (offers batches))).map (·.1.entry) ∧
      (Registry.ofBatches batches).location? c id =
        (firstAt ⟨c, id⟩ (located (offers batches))).map (·.2)) ∧
    (Registry.ofBatches batches).errors = duplicates (located (offers batches)) ∧
    (Registry.ofBatches batches).size + (Registry.ofBatches batches).errors.length =
      (offers batches).length ∧
    ((located (offers batches)).map (·.2)).Nodup ∧
    ((Registry.ofBatches batches).entries.Pairwise fun a b => compare a.1 b.1 = .lt) ∧
    (∀ ref e, (ref, e) ∈ (Registry.ofBatches batches).entries ↔
      (Registry.ofBatches batches).get? ref.collection ref.id = some e) ∧
    ∀ p ∈ (Registry.ofBatches batches).entries, p.2.id = p.1.id := by
  have htracks := ofBatches_tracks batches
  refine ⟨held_ofBatches batches, htracks.errors, htracks.size, located_nodup _, entries_ascend _, fun _ _ => mem_entries_iff, ?_⟩
  rintro ⟨ref, e⟩ hp
  exact id_of_get? (mem_entries_iff.1 hp)

end Rulebook
