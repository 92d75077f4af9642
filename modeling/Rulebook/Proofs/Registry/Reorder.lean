import Rulebook.Proofs.Registry.Offers

/-!
# The order of registration

Batches of different collections and different origins do not see each other: neither an id nor an
index of one depends on the other. They can be registered in either order, and only the errors come
in another order then.

* `Batch.Meets`: batches with a collection or an origin in common. `Reordered`: batches in another
  order, which is the same for those that meet.
* `Draft.Alike`: drafts that differ at most in the order of their errors.
* `offer_comm`, `register_comm`: what does not meet commutes.
* `registered_alike`: **reordered batches make the same draft**, up to the order of the errors.
-/

namespace Rulebook

open Std

/-- Whether two batches have a collection or an origin in common, so that the order in which they
are registered matters. -/
def Batch.Meets (b b' : Batch) : Prop := b.collection = b'.collection ∨ b.origin = b'.origin

/-- **Batches in another order**, each one with its old position. Of two batches that meet, the
one that came first still does. -/
def Reordered (batches batches' : List Batch) : Prop :=
  ∃ moved : List (Batch × Nat), moved.Perm batches.zipIdx ∧ moved.map (·.1) = batches' ∧
    moved.Pairwise fun p q => p.1.Meets q.1 → p.2 < q.2

/-- **Drafts that are alike**: they hold the same entries and have counted the same offers, and
their errors are the same in some order. -/
structure Draft.Alike (d d' : Draft) : Prop where
  table : d.registry.table = d'.registry.table
  errors : d.registry.errors.Perm d'.registry.errors
  offered : d.offered = d'.offered

namespace Draft

theorem Alike.refl (d : Draft) : d.Alike d := ⟨rfl, .refl _, rfl⟩

theorem Alike.symm {d d' : Draft} (h : d.Alike d') : d'.Alike d :=
  ⟨h.table.symm, h.errors.symm, h.offered.symm⟩

theorem Alike.trans {d d' d'' : Draft} (h : d.Alike d') (h' : d'.Alike d'') : d.Alike d'' :=
  ⟨h.table.trans h'.table, h.errors.trans h'.errors, h.offered.trans h'.offered⟩

/-! ## Drafts that are alike stay alike -/

theorem offer_alike {d d' : Draft} (h : d.Alike d') (c : Collection) (origin : String) (e : Entry) :
    (d.offer c origin e).Alike (d'.offer c origin e) := by
  have hnext : d.next origin = d'.next origin := by
    unfold next
    rw [h.offered]
  refine ⟨ExtTreeMap.ext_getElem? ?_, ?_, ?_⟩
  · intro ref
    rw [offer_table, offer_table, h.table, hnext]
  · have herror : d.error? c origin e = d'.error? c origin e := by
      unfold error?
      rw [h.table, hnext]
    rw [offer_errors, offer_errors, herror]
    exact h.errors.append_right _
  · rw [offer_offered, offer_offered, h.offered]

/-- Steps that keep drafts alike do so in a row. -/
theorem foldl_alike {α : Type} {step : Draft → α → Draft}
    (hstep : ∀ d d' a, Alike d d' → Alike (step d a) (step d' a)) (l : List α) :
    ∀ d d', Alike d d' → Alike (l.foldl step d) (l.foldl step d') := by
  induction l with
  | nil => exact fun _ _ h => h
  | cons a l ih => exact fun d d' h => ih _ _ (hstep d d' a h)

/-- **What commutes with each of some steps commutes with all of them in a row.** -/
theorem foldl_comm {α : Type} {step : Draft → α → Draft} {f : Draft → Draft} {l : List α}
    (hstep : ∀ d d' a, Alike d d' → Alike (step d a) (step d' a))
    (hcomm : ∀ a ∈ l, ∀ d, Alike (f (step d a)) (step (f d) a)) :
    ∀ d, Alike (f (l.foldl step d)) (l.foldl step (f d)) := by
  induction l with
  | nil => exact fun d => .refl _
  | cons a l ih =>
    intro d
    obtain ⟨ha, hl⟩ := List.forall_mem_cons.1 hcomm
    exact (ih hl (step d a)).trans (foldl_alike hstep l _ _ (ha d))

theorem register_alike (d d' : Draft) (b : Batch) (h : d.Alike d') :
    (d.register b).Alike (d'.register b) :=
  foldl_alike (fun _ _ e h => offer_alike h b.collection b.origin e) b.entries d d' h

/-! ## What does not meet commutes -/

/-- An offer does not change what the next location of another origin is. -/
theorem offer_next {origin origin' : String} (h : origin ≠ origin') (d : Draft) (c : Collection)
    (e : Entry) : (d.offer c origin e).next origin' = d.next origin' := by
  unfold next
  rw [offer_offered, ExtTreeMap.getD_insert, if_neg (by simpa using h)]

/-- An offer does not change what another collection makes of an offer from another origin. -/
theorem offer_error? {c c' : Collection} {origin origin' : String} (hc : c ≠ c')
    (horigin : origin ≠ origin') (d : Draft) (e e' : Entry) :
    (d.offer c origin e).error? c' origin' e' = d.error? c' origin' e' := by
  have href : (⟨c, e.id⟩ : Reference) ≠ ⟨c', e'.id⟩ := fun h => hc (congrArg Reference.collection h)
  unfold error?
  rw [offer_table, if_neg href, Option.or_none, offer_next horigin]

/-- **Offers into different collections and from different origins commute.** -/
theorem offer_comm {c c' : Collection} {origin origin' : String} (hc : c ≠ c')
    (horigin : origin ≠ origin') (e e' : Entry) (d : Draft) :
    ((d.offer c origin e).offer c' origin' e').Alike
      ((d.offer c' origin' e').offer c origin e) := by
  refine ⟨ExtTreeMap.ext_getElem? ?_, ?_, ?_⟩
  · intro ref
    rw [offer_table, offer_table, offer_table, offer_table, offer_next horigin,
      offer_next horigin.symm]
    by_cases href : (⟨c, e.id⟩ : Reference) = ref
    · -- the other offer is not found here
      have hother : (⟨c', e'.id⟩ : Reference) ≠ ref := by
        rintro rfl
        exact hc (congrArg Reference.collection href)
      rw [if_neg hother, Option.or_none, Option.or_none]
    · rw [if_neg href, Option.or_none, Option.or_none]
  · rw [offer_errors, offer_errors, offer_errors, offer_errors, offer_error? hc horigin,
      offer_error? hc.symm horigin.symm, List.append_assoc, List.append_assoc]
    exact List.perm_append_comm.append_left _
  · rw [offer_offered, offer_offered, offer_offered, offer_offered]
    refine ExtTreeMap.ext_getElem? ?_
    intro origin''
    simp only [ExtTreeMap.getElem?_insert, ExtTreeMap.getD_insert, LawfulEqCmp.compare_eq_iff_eq,
      if_neg horigin, if_neg horigin.symm]
    by_cases h : origin = origin''
    · subst h
      rw [if_neg horigin.symm, if_pos rfl, if_pos rfl]
    · rw [if_neg h, if_neg h]

/-- **Batches that do not meet commute.** -/
theorem register_comm {b b' : Batch} (h : ¬ b.Meets b') (d : Draft) :
    ((d.register b).register b').Alike ((d.register b').register b) := by
  obtain ⟨hc, horigin⟩ := not_or.1 h
  have hone (e : Entry) (d : Draft) : ((d.register b').offer b.collection b.origin e).Alike
      ((d.offer b.collection b.origin e).register b') :=
    foldl_comm (f := fun d => d.offer b.collection b.origin e)
      (fun _ _ e' h => offer_alike h b'.collection b'.origin e')
      (fun e' _ d => offer_comm (Ne.symm hc) (Ne.symm horigin) e' e d) d
  exact foldl_comm (f := fun d => d.register b')
    (fun _ _ e h => offer_alike h b.collection b.origin e) (fun e _ d => (hone e d).symm) d

/-! ## Reordered batches -/

/-- A batch can be registered before all others in a row that it does not meet. -/
theorem register_first {b : Batch} {before : List Batch} (h : ∀ b' ∈ before, ¬ b'.Meets b)
    (d : Draft) :
    ((before.foldl register d).register b).Alike (before.foldl register (d.register b)) :=
  foldl_comm (f := fun d => d.register b) register_alike
    (fun b' hb' d => register_comm (h b' hb') d) d

end Draft

/-- **Reordered batches make the same draft**, up to the order of the errors. The induction is on
the old order: what comes in front of its first batch now does not meet it. -/
theorem registered_alike {batches : List Batch} {k : Nat} {moved : List (Batch × Nat)}
    (hmoved : moved.Perm (batches.zipIdx k))
    (horder : moved.Pairwise fun p q => p.1.Meets q.1 → p.2 < q.2) (d : Draft) :
    ((moved.map (·.1)).foldl Draft.register d).Alike (batches.foldl Draft.register d) := by
  induction batches generalizing k moved d with
  | nil =>
    cases hmoved.eq_nil
    exact .refl d
  | cons b batches ih =>
    rw [List.zipIdx_cons] at hmoved
    obtain ⟨before, after, rfl⟩ := List.append_of_mem (hmoved.mem_iff.2 List.mem_cons_self)
    have hrest : (before ++ after).Perm (batches.zipIdx (k + 1)) :=
      (List.perm_middle.symm.trans hmoved).cons_inv
    -- what stands in front of the first batch now came behind it, which none that it meets may
    have hfirst : ∀ b' ∈ before.map (·.1), ¬ b'.Meets b := by
      intro b' hb' hmeets
      obtain ⟨p, hp, rfl⟩ := List.mem_map.1 hb'
      have hlt : p.2 < k :=
        (List.pairwise_append.1 horder).2.2 p hp (b, k) List.mem_cons_self hmeets
      have hle : k + 1 ≤ p.2 := (List.mem_zipIdx (hrest.mem_iff.1 (List.mem_append_left _ hp))).1
      omega
    have horder' : (before ++ after).Pairwise fun p q => p.1.Meets q.1 → p.2 < q.2 :=
      horder.sublist ((List.sublist_cons_self _ _).append_left _)
    have hih := ih hrest horder' (d.register b)
    rw [List.map_append, List.foldl_append] at hih
    rw [List.map_append, List.map_cons, List.foldl_append, List.foldl_cons]
    exact (Draft.foldl_alike Draft.register_alike _ _ _ (Draft.register_first hfirst d)).trans hih

/-! ## Neighbours -/

theorem zipIdx_ascends {α : Type} (l : List α) (k : Nat) :
    (l.zipIdx k).Pairwise fun p q => p.2 < q.2 := by
  have hpositions := List.pairwise_lt_range' (s := k) (n := l.length)
  rwa [← List.zipIdx_map_snd, List.pairwise_map] at hpositions

theorem ordered_of_ascends {l : List (Batch × Nat)} (h : l.Pairwise fun p q => p.2 < q.2) :
    l.Pairwise fun p q => p.1.Meets q.1 → p.2 < q.2 := by
  refine h.imp ?_
  intro p q hlt _
  exact hlt

/-- **Two neighbours that do not meet** can change places. -/
theorem reordered_swap {b b' : Batch} (h : ¬ b'.Meets b) (before after : List Batch) :
    Reordered (before ++ b :: b' :: after) (before ++ b' :: b :: after) := by
  have hascends := zipIdx_ascends (before ++ b :: b' :: after) 0
  rw [List.zipIdx_append, List.zipIdx_cons, List.zipIdx_cons] at hascends
  obtain ⟨hbefore, hrest, hacross⟩ := List.pairwise_append.1 hascends
  obtain ⟨hb, hrest⟩ := List.pairwise_cons.1 hrest
  obtain ⟨hb', hafter⟩ := List.pairwise_cons.1 hrest
  have hswap := List.Perm.swap (b', 0 + before.length + 1) (b, 0 + before.length)
    (after.zipIdx (0 + before.length + 1 + 1))
  refine ⟨before.zipIdx ++ (b', 0 + before.length + 1) :: (b, 0 + before.length) ::
    after.zipIdx (0 + before.length + 1 + 1), ?_, by simp, ?_⟩
  · rw [List.zipIdx_append, List.zipIdx_cons, List.zipIdx_cons]
    exact hswap.symm.append_left _
  · refine List.pairwise_append.2 ⟨ordered_of_ascends hbefore, ?_, ?_⟩
    · refine List.pairwise_cons.2 ⟨?_, List.pairwise_cons.2 ⟨?_, ordered_of_ascends hafter⟩⟩
      · intro q hq hmeets
        rcases List.mem_cons.1 hq with rfl | hq
        · exact absurd hmeets h
        · exact hb' q hq
      · intro q hq _
        exact hb q (List.mem_cons_of_mem _ hq)
    · intro p hp q hq _
      exact hacross p hp q (hswap.mem_iff.2 hq)

/-- Batches without a label meet if they are of the same collection, as names tell collections
apart. -/
theorem unlabelled_meets {c c' : Collection} {entries entries' : List Entry}
    (h : (Batch.unlabelled c entries).Meets (.unlabelled c' entries')) : c = c' := by
  rcases h with h | h
  · exact h
  · exact Collection.name_injective h

end Rulebook
