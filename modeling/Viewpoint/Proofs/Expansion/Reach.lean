import Mathlib.Data.Set.Card
import Mathlib.Order.Monotone.Basic
import Viewpoint.Proofs.Model.Keeping
import Viewpoint.Proofs.Model.SameFacts

/-!
# Elements within reach

The resolved relations of a model, taken in either direction, lead from element to element. An
element is within reach of a set of names when some number of steps leads to it from an element of
the set. As there are only finitely many elements, more steps than that reach nothing new.

* `Model.InReach` says that a name is in a set or is that of an element within reach of it, and
  `Model.RelationInReach` that it is that of a relation with both ends within reach.
* `Model.WellLinked` is what widening relies on, and `wellLinked_of_build` says that it holds in
  every model that is built.
* `Model.WellLinked.inReach_succ_iff` says what one more step reaches, and
  `Model.WellLinked.inReach_of_succ` when this is nothing new.
-/

namespace Viewpoint

namespace Model

/-- An element of the model has this name. -/
def HasElement (model : Model) (id : Ident) : Prop :=
  ∃ e ∈ model.elements, e.id = id

/-- A resolved relation runs between two names, in either direction. -/
def Linked (model : Model) (a b : Ident) : Prop :=
  ∃ r ∈ model.relations, (r.source = a ∧ r.target = b) ∨ (r.source = b ∧ r.target = a)

/-- At most `n` steps along resolved relations lead from one name to another. -/
inductive ReachesWithin (model : Model) (origin : Ident) : Nat → Ident → Prop where
  /-- No step has to be made. -/
  | stay (n : Nat) : ReachesWithin model origin n origin
  /-- One more step may be made. -/
  | step {n : Nat} {a b : Ident} : ReachesWithin model origin n a → model.Linked a b →
    ReachesWithin model origin (n + 1) b

/-- A name is in a set, or it is that of an element to which at most `n` steps lead from an element
of the set. -/
def InReach (model : Model) (set : IdentSet) (n : Nat) (id : Ident) : Prop :=
  id ∈ set.toList ∨ ∃ origin ∈ set.toList,
    model.HasElement origin ∧ model.HasElement id ∧ model.ReachesWithin origin n id

/-- A name is that of a resolved relation between elements within reach. -/
def RelationInReach (model : Model) (set : IdentSet) (n : Nat) (id : Ident) : Prop :=
  ∃ r ∈ model.relations, (model.InReach set n r.source ∧ model.InReach set n r.target) ∧ r.id = id

/-- The names of the elements that at most `n` steps reach. -/
def reachedElements (model : Model) (set : IdentSet) (n : Nat) : Set Ident :=
  { id | model.HasElement id ∧ model.InReach set n id }

/-- The relations of a model run between its elements, are found at both of their ends and have
names of their own. -/
structure WellLinked (model : Model) : Prop where
  /-- The relations found at an element as outgoing are the resolved ones that start there. -/
  mem_relationsFrom_iff : ∀ id r,
    r ∈ model.relationsFrom id ↔ r ∈ model.relations ∧ r.source = id
  /-- The relations found at an element as incoming are the resolved ones that end there. -/
  mem_relationsTo_iff : ∀ id r, r ∈ model.relationsTo id ↔ r ∈ model.relations ∧ r.target = id
  /-- Both ends of a resolved relation are elements. -/
  ends : ∀ r ∈ model.relations, model.HasElement r.source ∧ model.HasElement r.target
  /-- No resolved relation has the name of an element. -/
  not_hasElement_id : ∀ r ∈ model.relations, ¬ model.HasElement r.id

variable {model : Model} {set : IdentSet} {m n : Nat} {id origin a b : Ident}

theorem ReachesWithin.mono (h : model.ReachesWithin origin m id) (hle : m ≤ n) :
    model.ReachesWithin origin n id := by
  induction h generalizing n with
  | stay => exact .stay n
  | step _ hlink ih =>
    cases n with
    | zero => exact absurd hle (Nat.not_succ_le_zero _)
    | succ n => exact .step (ih (Nat.le_of_succ_le_succ hle)) hlink

theorem InReach.mono (h : model.InReach set m id) (hle : m ≤ n) : model.InReach set n id :=
  h.imp_right fun ⟨origin, horigin, helement, hid, hreach⟩ =>
    ⟨origin, horigin, helement, hid, hreach.mono hle⟩

theorem RelationInReach.mono (h : model.RelationInReach set m id) (hle : m ≤ n) :
    model.RelationInReach set n id := by
  obtain ⟨r, hr, ⟨hsource, htarget⟩, hid⟩ := h
  exact ⟨r, hr, ⟨hsource.mono hle, htarget.mono hle⟩, hid⟩

/-- Without a step nothing but the set is within reach. -/
theorem inReach_zero_iff : model.InReach set 0 id ↔ id ∈ set.toList := by
  refine ⟨?_, .inl⟩
  rintro (hid | ⟨origin, horigin, -, -, hreach⟩)
  · exact hid
  · cases hreach
    exact horigin

/-- The reached elements are elements. -/
theorem reachedElements_subset (model : Model) (set : IdentSet) (n : Nat) :
    model.reachedElements set n ⊆ ↑(model.elements.map Element.id).toFinset := by
  rintro id ⟨⟨e, he, rfl⟩, -⟩
  exact List.mem_toFinset.2 (List.mem_map_of_mem he)

theorem finite_reachedElements (model : Model) (set : IdentSet) (n : Nat) :
    (model.reachedElements set n).Finite :=
  (Finset.finite_toSet _).subset (model.reachedElements_subset set n)

/-- There are no more reached elements than elements. -/
theorem ncard_reachedElements_le (model : Model) (set : IdentSet) (n : Nat) :
    (model.reachedElements set n).ncard ≤ model.elements.length := calc
  (model.reachedElements set n).ncard
    ≤ (model.elements.map Element.id).toFinset.card := by
      rw [← Set.ncard_coe_finset]
      exact Set.ncard_le_ncard (model.reachedElements_subset set n)
  _ ≤ (model.elements.map Element.id).length := List.toFinset_card_le _
  _ = model.elements.length := List.length_map _

namespace WellLinked

variable (h : model.WellLinked)

include h

/-- Only elements are linked. -/
theorem hasElement_of_linked (hlink : model.Linked a b) :
    model.HasElement a ∧ model.HasElement b := by
  obtain ⟨r, hr, ⟨rfl, rfl⟩ | ⟨rfl, rfl⟩⟩ := hlink
  · exact h.ends r hr
  · exact (h.ends r hr).symm

/-- One more step reaches what is linked to what was within reach before. -/
theorem inReach_succ_iff : model.InReach set (n + 1) id ↔
    model.InReach set n id ∨ ∃ other, model.InReach set n other ∧ model.Linked other id := by
  constructor
  · rintro (hid | ⟨origin, horigin, helement, hid, hreach⟩)
    · exact .inl (.inl hid)
    · cases hreach with
      | stay => exact .inl (.inl horigin)
      | @step _ other _ hreach hlink =>
        exact .inr ⟨other, .inr ⟨origin, horigin, helement, (h.hasElement_of_linked hlink).1,
          hreach⟩, hlink⟩
  · rintro (hid | ⟨other, hother, hlink⟩)
    · exact hid.mono n.le_succ
    · obtain ⟨hfirst, hsecond⟩ := h.hasElement_of_linked hlink
      rcases hother with hother | ⟨origin, horigin, helement, -, hreach⟩
      -- a member of the set is where the steps start
      · exact .inr ⟨other, hother, hfirst, hsecond, .step (.stay n) hlink⟩
      · exact .inr ⟨origin, horigin, helement, hsecond, .step hreach hlink⟩

theorem mem_reachedElements_succ_iff : id ∈ model.reachedElements set (n + 1) ↔
    id ∈ model.reachedElements set n ∨
      ∃ other ∈ model.reachedElements set n, model.Linked other id := by
  simp only [reachedElements, Set.mem_ofPred_eq, h.inReach_succ_iff]
  constructor
  · rintro ⟨hid, hreach | ⟨other, hother, hlink⟩⟩
    · exact .inl ⟨hid, hreach⟩
    · exact .inr ⟨other, ⟨(h.hasElement_of_linked hlink).1, hother⟩, hlink⟩
  · rintro (⟨hid, hreach⟩ | ⟨other, ⟨-, hother⟩, hlink⟩)
    · exact ⟨hid, .inl hreach⟩
    · exact ⟨(h.hasElement_of_linked hlink).2, .inr ⟨other, hother, hlink⟩⟩

/-- With as many steps as there are elements, all that can be reached is reached: the number of
reached elements grows until a step adds none, and from then on no step does. -/
theorem reachedElements_succ (hle : model.elements.length ≤ n) :
    model.reachedElements set (n + 1) = model.reachedElements set n := by
  have hsub : ∀ k, model.reachedElements set k ⊆ model.reachedElements set (k + 1) :=
    fun k id hid => h.mem_reachedElements_succ_iff.2 (.inl hid)
  have heq : ∀ k, (model.reachedElements set k).ncard = (model.reachedElements set (k + 1)).ncard →
      model.reachedElements set k = model.reachedElements set (k + 1) := fun k hk =>
    Set.eq_of_subset_of_ncard_le (hsub k) hk.ge (finite_reachedElements model set (k + 1))
  have hmono : Monotone fun k => (model.reachedElements set k).ncard :=
    monotone_nat_of_le_succ fun k =>
      Set.ncard_le_ncard (hsub k) (finite_reachedElements model set (k + 1))
  have hstable : ∀ k,
      (model.reachedElements set k).ncard = (model.reachedElements set (k + 1)).ncard →
        (model.reachedElements set (k + 1)).ncard = (model.reachedElements set (k + 2)).ncard := by
    intro k hk
    congr 1
    ext id
    rw [h.mem_reachedElements_succ_iff, h.mem_reachedElements_succ_iff, heq k hk]
  have hlast : ∀ k, model.elements.length ≤ k → (model.reachedElements set k).ncard =
      (model.reachedElements set model.elements.length).ncard := fun k hk =>
    Nat.stabilises_of_monotone hmono (ncard_reachedElements_le model set) hstable hk
  exact (heq n ((hlast n hle).trans (hlast (n + 1) (by omega)).symm)).symm

/-- With as many steps as there are elements, one more step reaches nothing new. -/
theorem inReach_of_succ (hle : model.elements.length ≤ n) (hid : model.InReach set (n + 1) id) :
    model.InReach set n id := by
  rcases hid with hid | ⟨origin, horigin, hstart, helement, hreach⟩
  · exact .inl hid
  · have hmem : id ∈ model.reachedElements set (n + 1) :=
      ⟨helement, .inr ⟨origin, horigin, hstart, helement, hreach⟩⟩
    rw [h.reachedElements_succ hle] at hmem
    exact hmem.2

end WellLinked

end Model

/-- In a model that is assembled, the elements are the declared ones. -/
theorem hasElement_assemble_iff {items : List Item} {id : Ident} :
    (Model.assemble items).HasElement id ↔ isElementOf items id = true := by
  have hids : (Model.assemble items).HasElement id ↔
      id ∈ (Model.assemble items).elements.map Element.id := List.mem_map.symm
  rw [hids, Model.ids_elements_assemble, List.mem_map, isElementOf_iff]
  simp only [mem_filterMap_element?]

/-- Every model that is built has relations between its elements, and they are found there. -/
theorem wellLinked_of_build {sources : List Source} {built : Built}
    (h : (Model.build sources).value = .ok built) : built.model.WellLinked := by
  obtain ⟨hmodel, hnodup⟩ := assemble_of_build h
  rw [hmodel]
  refine ⟨?_, ?_, ?_, ?_⟩
  · intro id r
    rw [Model.relationsFrom_assemble, List.mem_filter, decide_eq_true_eq]
  · intro id r
    rw [Model.relationsTo_assemble, List.mem_filter, decide_eq_true_eq]
  · intro r hr
    rw [hasElement_assemble_iff, hasElement_assemble_iff]
    exact (mem_relations_assemble.1 hr).2
  · rintro r hr ⟨e, he, hid⟩
    exact (namesRelation_assemble hnodup hr).ne_element e he hid

end Viewpoint
