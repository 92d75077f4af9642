import Rulebook.Proofs.Registry.Offers

/-!
# Registries that grow

A registration never takes back what it did: what is registered stays where it is, and an error
stays an error.

* `Draft.Grows`: a draft that came later. `offer_grows` for one entry, `register_grows` for a batch
  and `registered_grows` for all batches.
* `Registry.Grows`, `ofBatches_grows`: **more batches keep what is registered.**
-/

namespace Rulebook

/-- **A draft that came later** has what was there before, and at most more errors behind the ones
that were there. -/
structure Draft.Grows (d d' : Draft) : Prop where
  table : ∀ (ref : Reference) x, d.registry.table[ref]? = some x →
    d'.registry.table[ref]? = some x
  errors : d.registry.errors <+: d'.registry.errors

/-- **A registry that has all of another one**, with each entry at its location. -/
structure Registry.Grows (r r' : Registry) : Prop where
  get? : ∀ c id e, r.get? c id = some e → r'.get? c id = some e
  location? : ∀ c id l, r.location? c id = some l → r'.location? c id = some l
  errors : r.errors <+: r'.errors

namespace Draft

theorem Grows.refl (d : Draft) : d.Grows d := ⟨fun _ _ h => h, List.prefix_refl _⟩

theorem Grows.trans {d d' d'' : Draft} (h : d.Grows d') (h' : d'.Grows d'') : d.Grows d'' :=
  ⟨fun ref x hx => h'.table ref x (h.table ref x hx), h.errors.trans h'.errors⟩

/-- **An offer takes the place of nothing**: the first entry with an id wins. -/
theorem offer_grows (d : Draft) (c : Collection) (origin : String) (e : Entry) :
    d.Grows (d.offer c origin e) where
  table ref x hx := by rw [offer_table, hx, Option.some_or]
  errors := by
    rw [offer_errors]
    exact List.prefix_append _ _

/-- Steps after which a draft came later make one in a row. -/
theorem foldl_grows {α : Type} {step : Draft → α → Draft} (hstep : ∀ d a, Grows d (step d a))
    (l : List α) : ∀ d, Grows d (l.foldl step d) := by
  induction l with
  | nil => exact Grows.refl
  | cons a l ih => exact fun d => (hstep d a).trans (ih (step d a))

theorem register_grows (d : Draft) (b : Batch) : d.Grows (d.register b) :=
  foldl_grows (fun d e => offer_grows d b.collection b.origin e) b.entries d

theorem registered_grows (batches : List Batch) (d : Draft) :
    d.Grows (batches.foldl register d) :=
  foldl_grows register_grows batches d

theorem Grows.freeze {d d' : Draft} (h : d.Grows d') : d.freeze.Grows d'.freeze where
  get? c id e he := by
    obtain ⟨x, hx, rfl⟩ := Option.map_eq_some_iff.1 he
    exact Option.map_eq_some_iff.2 ⟨x, h.table _ x hx, rfl⟩
  location? c id l hl := by
    obtain ⟨x, hx, rfl⟩ := Option.map_eq_some_iff.1 hl
    exact Option.map_eq_some_iff.2 ⟨x, h.table _ x hx, rfl⟩
  errors := h.errors

end Draft

/-- **More batches keep what is registered.** -/
theorem ofBatches_grows (batches more : List Batch) :
    (Registry.ofBatches batches).Grows (.ofBatches (batches ++ more)) := by
  unfold Registry.ofBatches
  rw [List.foldl_append]
  exact (Draft.registered_grows more _).freeze

end Rulebook
