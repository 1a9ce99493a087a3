import Viewpoint.Proofs.Model.Walks

/-!
# What lies below an element in a tree

Where no element lies inside itself, looking below an element goes through a tree in pre-order: one
held element after the other, and each of them before all that lies below it. What is seen already
is never met again, so it does not matter that it would be passed over.

* `Containment.not_within_of_ne` says that what lies within two held elements is apart.
* `Containment.sweep_append` cuts a sweep in two, and `Containment.sweep_congr` says which of the
  elements that are seen matter to it.
* `Containment.descendants_eq_flatMap` and `Containment.ancestors_eq_elim` are the equations of the
  recursion downwards and upwards.
* `ListsInPreorder` is what a model lists above and below an element, and `listsInPreorder` says
  that all models that are built list it.
-/

namespace Viewpoint

namespace Containment

variable {c : Containment} {id a b x : Ident} {seen seen' awaiting more : List Ident}

/-- Of two elements within which another one lies, one lies within the other. -/
theorem Within.total (ha : c.Within x a) (hb : c.Within x b) : c.Within a b ∨ c.Within b a := by
  have hiff : ∀ {x top : Ident}, c.Within x top ↔
      Relation.ReflTransGen (fun child parent => c.parent? child = some parent) x top := by
    intro x top
    rw [Within, leadsTo_iff_transGen, Relation.reflTransGen_iff_eq_or_transGen, eq_comm]
  -- an element has one holder at most
  have hunique : Relator.RightUnique fun child parent => c.parent? child = some parent := by
    intro child parent parent' hparent hparent'
    exact Option.some.inj (hparent.symm.trans hparent')
  rw [hiff, hiff]
  exact Relation.ReflTransGen.total_of_right_unique hunique (hiff.1 ha) (hiff.1 hb)

/-- One held element does not lie within another one of the same holder, unless the holder lies
inside itself. -/
theorem Within.eq_of_parent? (h : c.Within a b) (ha : c.parent? a = some id)
    (hb : c.parent? b = some id) (hacyclic : ¬ LeadsTo c.parent? id id) : a = b :=
  h.resolve_right fun hleads =>
    -- the way up from the one to the other starts at their holder
    hacyclic (Within.leadsTo ((leadsTo_iff_of_next ha).1 hleads) hb)

/-- An element with all that is below it is what lies within it. -/
theorem mem_cons_descendants_iff : x ∈ id :: c.descendants id ↔ c.Within x id := by
  rw [List.mem_cons, mem_descendants_iff, Within]
  by_cases heq : x = id
  · exact iff_of_true (Or.inl heq) (Or.inl heq)
  · rw [and_iff_right heq]

/-- A sweep over two lists is a sweep over the first one and then one over the second. -/
theorem sweep_append (c : Containment) (seen awaiting more : List Ident) :
    c.sweep seen (awaiting ++ more) =
      c.sweep seen awaiting ++ c.sweep ((c.sweep seen awaiting).reverse ++ seen) more := by
  induction seen, awaiting using sweep.induct c with
  | case1 seen => simp
  | case2 seen next rest hmem ih => rw [List.cons_append, sweep_of_mem hmem, sweep_of_mem hmem, ih]
  | case3 seen next rest hmem ih =>
    rw [List.cons_append, sweep_of_notMem hmem, sweep_of_notMem hmem, ← List.append_assoc, ih,
      List.cons_append, List.reverse_cons, List.append_assoc, List.singleton_append]

/-- Of what is seen only that matters to a sweep which lies within something awaited. -/
theorem sweep_congr
    (h : ∀ x, (∃ top ∈ awaiting, c.Within x top) → (x ∈ seen ↔ x ∈ seen')) :
    c.sweep seen awaiting = c.sweep seen' awaiting := by
  induction seen, awaiting using sweep.induct c generalizing seen' with
  | case1 seen => simp
  | case2 seen next rest hmem ih =>
    have hnext := (h next ⟨next, List.mem_cons_self, Or.inl rfl⟩).1 hmem
    rw [sweep_of_mem hmem, sweep_of_mem hnext]
    refine ih ?_
    rintro x ⟨top, htop, hx⟩
    exact h x ⟨top, List.mem_cons_of_mem _ htop, hx⟩
  | case3 seen next rest hmem ih =>
    have hnext := mt (h next ⟨next, List.mem_cons_self, Or.inl rfl⟩).2 hmem
    rw [sweep_of_notMem hmem, sweep_of_notMem hnext]
    refine congrArg (next :: ·) (ih ?_)
    rintro x ⟨top, htop, hx⟩
    have hseen : x ∈ seen ↔ x ∈ seen' := by
      rcases List.mem_append.1 htop with htop | htop
      · exact h x ⟨next, List.mem_cons_self, Or.inr (hx.leadsTo (mem_children_iff.1 htop))⟩
      · exact h x ⟨top, List.mem_cons_of_mem _ htop, hx⟩
    rw [List.mem_cons, List.mem_cons, hseen]

/-- A sweep over one element that nothing seen lies within lists the element and what is below. -/
theorem sweep_singleton (hfresh : ∀ x, c.Within x id → x ∉ seen) :
    c.sweep seen [id] = id :: c.descendants id := by
  rw [sweep_of_notMem (hfresh id (Or.inl rfl)), List.append_nil, descendants]
  refine congrArg (id :: ·) (sweep_congr ?_)
  rintro x ⟨top, htop, hx⟩
  have hseen : x ∉ seen := hfresh x (Or.inr (hx.leadsTo (mem_children_iff.1 htop)))
  rw [List.mem_cons, List.mem_singleton, or_iff_left hseen]

/-- A sweep lists one awaiting element after the other with what is below it, if nothing lies within
two of them and nothing seen within any. -/
theorem sweep_eq_flatMap (hfresh : ∀ top ∈ awaiting, ∀ x, c.Within x top → x ∉ seen)
    (hapart : awaiting.Pairwise fun a b => ∀ x, c.Within x a → ¬ c.Within x b) :
    c.sweep seen awaiting = awaiting.flatMap fun top => top :: c.descendants top := by
  -- by induction on the list, for all that is seen: what the first element adds to it lies within
  -- the first element, so not within the later ones
  induction awaiting generalizing seen with
  | nil => simp
  | cons first rest ih =>
    obtain ⟨hfirst, hrest⟩ := List.pairwise_cons.1 hapart
    have hlisted := sweep_singleton (hfresh first List.mem_cons_self)
    rw [← List.singleton_append, sweep_append, List.flatMap_append, List.flatMap_singleton, hlisted,
      ih ?_ hrest]
    intro top htop x hx
    rw [List.mem_append, List.mem_reverse, ← hlisted, not_or]
    refine ⟨fun hmem => ?_, hfresh top (List.mem_cons_of_mem _ htop) x hx⟩
    obtain ⟨-, other, hother, hwithin⟩ := within_of_mem_sweep hmem
    cases List.mem_singleton.1 hother
    exact hfirst top htop x hwithin hx

/-- Nothing lies within two elements of the same holder, unless the holder lies inside itself. -/
theorem not_within_of_ne (hacyclic : ¬ LeadsTo c.parent? id id) (ha : a ∈ c.children id)
    (hb : b ∈ c.children id) (hne : a ≠ b) (hxa : c.Within x a) : ¬ c.Within x b := by
  intro hxb
  rw [mem_children_iff] at ha hb
  rcases hxa.total hxb with hab | hba
  · exact hne (hab.eq_of_parent? ha hb hacyclic)
  · exact hne (hba.eq_of_parent? hb ha hacyclic).symm

/-- Below an element that does not lie inside itself is one held element after the other, each with
what is below it. -/
theorem descendants_eq_flatMap (hacyclic : ¬ LeadsTo c.parent? id id) :
    c.descendants id = (c.children id).flatMap fun child => child :: c.descendants child := by
  have hapart : (c.children id).Pairwise fun a b => ∀ x, c.Within x a → ¬ c.Within x b :=
    (c.nodup_children id).imp_of_mem fun ha hb hne _ => not_within_of_ne hacyclic ha hb hne
  refine sweep_eq_flatMap (fun child hchild x hx hseen => ?_) hapart
  cases List.mem_singleton.1 hseen
  exact hacyclic (hx.leadsTo (mem_children_iff.1 hchild))

/-- Where no element lies inside itself, every way up has an end. -/
theorem walkEnds_of_acyclic (hacyclic : ∀ id, ¬ LeadsTo c.parent? id id) (id : Ident) :
    WalkEnds c.parent? id := by
  rcases walk_parent?_cases c id with hends | ⟨i, j, entry, hreturn, hentry⟩
  · exact hends
  · exact absurd (leadsTo_self_iff.2 ⟨_, (hreturn.circle hentry).closedPath⟩) (hacyclic entry)

/-- Above an element is its holder with what is above that, if the way up has an end. -/
theorem ancestors_eq_elim (hends : WalkEnds c.parent? id) :
    c.ancestors id = (c.parent? id).elim [] fun holder => holder :: c.ancestors holder := by
  obtain ⟨n, last, hlast, hend⟩ := hends
  cases n with
  | zero =>
    cases hlast
    rw [ancestors, climb_of_end walk_zero hend, hend, trail_one]
    rfl
  | succ n =>
    rw [walk_succ] at hlast
    obtain ⟨holder, hholder, hfrom⟩ := Option.bind_eq_some_iff.1 hlast
    have hclimb := climb_of_end (by rw [walk_succ, hholder, Option.bind_some, hfrom]) hend
    rw [ancestors, hclimb, hholder, trail_succ_of_next hholder, List.tail_cons, Option.elim_some,
      cons_ancestors, climb_of_end hfrom hend]

end Containment

/-- What a model lists above and below its elements is what the recursion over a tree lists. -/
structure ListsInPreorder (model : Model) : Prop where
  /-- Below an element is one held element after the other, each before all that is below it. -/
  descendants_eq : ∀ id, model.descendants id =
    (model.children id).flatMap fun child => child :: model.descendants child
  /-- Nothing else satisfies this equation. -/
  descendants_unique : ∀ below : Ident → List Ident,
    (∀ id, below id = (model.children id).flatMap fun child => child :: below child) →
      below = model.descendants
  /-- Below an element nothing is listed twice, and not the element itself. -/
  nodup_descendants : ∀ id, (id :: model.descendants id).Nodup
  /-- What is below two elements in the same place is apart. -/
  disjoint_descendants : ∀ id, ∀ a ∈ model.children id, ∀ b ∈ model.children id, a ≠ b →
    (a :: model.descendants a).Disjoint (b :: model.descendants b)
  /-- What is below a held element stands together behind it. -/
  infix_descendants : ∀ id, ∀ child ∈ model.children id,
    (child :: model.descendants child) <:+: model.descendants id
  /-- Above an element without a holder is nothing. -/
  ancestors_of_none : ∀ id, model.parent? id = none → model.ancestors id = []
  /-- Above any other element is its holder with what is above that. -/
  ancestors_of_some : ∀ id holder, model.parent? id = some holder →
    model.ancestors id = holder :: model.ancestors holder

namespace Model.PlacesElements

variable {model : Model} (h : model.PlacesElements)
  (hacyclic : ∀ id, ¬ LeadsTo model.parent? id id)

include h hacyclic

/-- Below an element is one held element after the other, each before all that is below it. -/
theorem descendants_eq_flatMap (id : Ident) : model.descendants id =
    (model.children id).flatMap fun child => child :: model.descendants child := by
  rw [h.descendants_eq, Containment.descendants_eq_flatMap (hacyclic id)]
  simp only [h.descendants_eq, children]

/-- What is below a held element stands together behind it. -/
theorem infix_descendants {id child : Ident} (hchild : child ∈ model.children id) :
    (child :: model.descendants child) <:+: model.descendants id := by
  obtain ⟨before, after, hsplit⟩ := List.append_of_mem hchild
  rw [h.descendants_eq_flatMap hacyclic id, hsplit, List.flatMap_append, List.flatMap_cons,
    ← List.append_assoc]
  exact List.infix_append _ _ _

/-- Above an element is its holder with what is above that, if it has one. -/
theorem ancestors_eq_elim (id : Ident) : model.ancestors id =
    (model.parent? id).elim [] fun holder => holder :: model.ancestors holder := by
  have hends := Containment.walkEnds_of_acyclic hacyclic id
  simp only [h.ancestors_eq, Containment.ancestors_eq_elim hends, parent?]

/-- There is only one way to list what is below the elements in this order. -/
theorem eq_descendants {below : Ident → List Ident}
    (hbelow : ∀ id, below id = (model.children id).flatMap fun child => child :: below child)
    (id : Ident) : below id = model.descendants id := by
  -- by induction on how much is below the element: below what it holds there is less
  induction hlength : (model.descendants id).length using Nat.strongRecOn generalizing id with
  | ind n ih =>
    subst hlength
    rw [hbelow, h.descendants_eq_flatMap hacyclic id]
    refine List.flatMap_congr fun child hchild => ?_
    have hless := (h.infix_descendants hacyclic hchild).length_le
    rw [ih _ hless child rfl]

end Model.PlacesElements

/-- Every model that is built lists what is above and below its elements as the recursion over a
tree does. -/
theorem listsInPreorder {sources : List Source} {built : Built}
    (h : (Model.build sources).value = .ok built) : ListsInPreorder built.model := by
  have hplaces : built.model.PlacesElements :=
    (assemble_of_build h).1 ▸ placesElements_assemble (declaredItems sources)
  have hacyclic := (containmentForest_of_build h).acyclic
  refine ⟨hplaces.descendants_eq_flatMap hacyclic,
    fun below hbelow => funext (hplaces.eq_descendants hacyclic hbelow), ?_, ?_,
    fun id child => hplaces.infix_descendants hacyclic, ?_, ?_⟩
  · intro id
    rw [hplaces.descendants_eq, List.nodup_cons]
    exact ⟨fun hmem => (Containment.mem_descendants_iff.1 hmem).1 rfl,
      Containment.nodup_descendants _ id⟩
  · intro id a ha b hb hne x hxa hxb
    rw [hplaces.descendants_eq, Containment.mem_cons_descendants_iff] at hxa hxb
    exact Containment.not_within_of_ne (hacyclic id) ha hb hne hxa hxb
  · intro id hnone
    rw [hplaces.ancestors_eq_elim hacyclic, hnone, Option.elim_none]
  · intro id holder hholder
    rw [hplaces.ancestors_eq_elim hacyclic, hholder, Option.elim_some]

/-- The tree of the two sources from its root on. -/
theorem listsInPreorder_shopSources :
    ∃ built, (Model.build shopSources).value = .ok built ∧
      built.model.descendants ⟨"acme"⟩ =
        [⟨"shop"⟩, ⟨"shop/web"⟩, ⟨"shop/queue"⟩, ⟨"db"⟩] ∧
      ListsInPreorder built.model := by
  obtain ⟨built, hbuilt, hbelow⟩ :
      ∃ built, (Model.build shopSources).value = .ok built ∧
        built.model.descendants ⟨"acme"⟩ =
          [⟨"shop"⟩, ⟨"shop/web"⟩, ⟨"shop/queue"⟩, ⟨"db"⟩] :=
    exists_built_of_map (by decide +kernel)
  exact ⟨built, hbuilt, hbelow, listsInPreorder hbuilt⟩

end Viewpoint
