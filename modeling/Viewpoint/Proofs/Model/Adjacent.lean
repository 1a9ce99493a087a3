import Viewpoint.Proofs.Model.DeclarationOrder

/-!
# Relations at elements

A model files every resolved relation twice, under the name where it starts and under the name where
it ends. Criteria and widening ask these two files and never the relations themselves, so the files
have to be exact: what stands under a name are the resolved relations with this end and no others,
each of them once and in the order of declaration.

* `FilesUnder` says that lists file the relations of a model under one of their ends, and
  `filesUnder_filter` that leaving out the relations with another end does so.
* `FilesRelations` says that both files of a model are exact and how they go together, and
  `filesRelations_of_build` that this holds in every model that is built.
-/

namespace Viewpoint

/-- The names of relations, filed one after the other under one of the ends of the relations. -/
def namesUnder (relations : List Relation) (ending : Relation → Ident) : Index Ident :=
  relations.foldl (fun index r => index.add (ending r) r.id) ∅

/-- There is a list under each name, and together they file the resolved relations of a model under
one of their two ends. -/
structure FilesUnder (model : Model) (list : Ident → List Relation) (ending : Relation → Ident) :
    Prop where
  /-- Under a name stand the resolved relations with this end, and no others. -/
  mem_iff : ∀ id r, r ∈ list id ↔ r ∈ model.relations ∧ ending r = id
  /-- None of them stands there twice, nor does another one of the same name. -/
  nodup_ids : ∀ id, ((list id).map Relation.id).Nodup
  /-- They follow each other as they are declared. -/
  declared_order : ∀ id, (list id).Pairwise fun a b => model.DeclaredEarlier a.id b.id
  /-- Every resolved relation stands under exactly one name. -/
  existsUnique_id : ∀ r ∈ model.relations, ∃! id, r ∈ list id
  /-- No relation that is kept aside stands under any name. -/
  ne_unresolved : ∀ r ∈ model.unresolved, ∀ id, ∀ filed ∈ list id, filed.id ≠ r.id
  /-- The lists can be kept as names, which are added relation by relation: looked up one by one,
  they give the list and nothing gets lost. -/
  filterMap_relation? : ∀ id,
    ((namesUnder model.relations ending).get id).filterMap model.relation? = list id

/-- The relations of a model are filed under both of their ends. -/
structure FilesRelations (model : Model) : Prop where
  /-- They are filed under the names where they start. -/
  outgoing : FilesUnder model model.relationsFrom Relation.source
  /-- They are filed under the names where they end. -/
  incoming : FilesUnder model model.relationsTo Relation.target
  /-- What touches a name stands there in one file or the other. -/
  touches_iff : ∀ id r, (r ∈ model.relations ∧ r.touches id = true) ↔
    r ∈ model.relationsFrom id ∨ r ∈ model.relationsTo id
  /-- What stands there in both is what leads from the name to itself. -/
  loop_iff : ∀ id r, (r ∈ model.relationsFrom id ∧ r ∈ model.relationsTo id) ↔
    r ∈ model.relations ∧ r.source = id ∧ r.target = id

/-- Under a name are filed the names of the relations with this end, in their order. -/
theorem get_namesUnder (relations : List Relation) (ending : Relation → Ident) (id : Ident) :
    (namesUnder relations ending).get id =
      (relations.filter (ending · = id)).map Relation.id := by
  -- by induction on the relations from the back, as the last one is filed last
  induction relations using List.reverseRecOn with
  | nil => rfl
  | append_singleton relations r ih =>
    rw [namesUnder, List.foldl_append, ← namesUnder, List.foldl_cons, List.foldl_nil,
      Index.get_add, List.filter_append, List.map_append]
    by_cases hid : ending r = id
    · rw [if_pos hid.symm, hid, ih]
      simp [hid]
    · rw [if_neg (Ne.symm hid), ih]
      simp [hid]

variable {items : List Item}

/-- Among distinct names the resolved relations have distinct ones. -/
theorem nodup_ids_relations_assemble (hnodup : (items.map Item.id).Nodup) :
    ((Model.assemble items).relations.map Relation.id).Nodup :=
  (Model.ids_relations_sublist items).nodup hnodup

/-- Among distinct names, a resolved relation is found under its own. -/
theorem relation?_id_assemble (hnodup : (items.map Item.id).Nodup) {r : Relation}
    (hr : r ∈ (Model.assemble items).relations) : (Model.assemble items).relation? r.id = some r :=
  (find?_eq_some_iff_of_nodup (nodup_ids_relations_assemble hnodup)).2 ⟨hr, rfl⟩

/-- Relations that are looked up by their own names are all found. -/
theorem filterMap_relation?_map_id (hnodup : (items.map Item.id).Nodup) {list : List Relation}
    (hlist : ∀ r ∈ list, r ∈ (Model.assemble items).relations) :
    (list.map Relation.id).filterMap (Model.assemble items).relation? = list := by
  rw [List.filterMap_map]
  calc list.filterMap ((Model.assemble items).relation? ∘ Relation.id)
      = list.filterMap some :=
        List.filterMap_congr fun r hr => relation?_id_assemble hnodup (hlist r hr)
    _ = list := List.filterMap_some

/-- To file the relations under one of their ends is to leave out those with another end. -/
theorem filesUnder_filter (hnodup : (items.map Item.id).Nodup) (ending : Relation → Ident) :
    FilesUnder (Model.assemble items)
      (fun id => (Model.assemble items).relations.filter (ending · = id)) ending where
  mem_iff id r := by rw [List.mem_filter, decide_eq_true_eq]
  nodup_ids id :=
    (List.filter_sublist.map Relation.id).nodup (nodup_ids_relations_assemble hnodup)
  declared_order id := by
    have hnames := (Model.pairwise_declaredEarlier hnodup).sublist
      (Model.ids_relations_sublist items)
    exact (List.pairwise_map.1 hnames).sublist List.filter_sublist
  existsUnique_id r hr := by
    refine ⟨ending r, List.mem_filter.2 ⟨hr, by simp⟩, fun id hid => ?_⟩
    simpa [eq_comm] using (List.mem_filter.1 hid).2
  ne_unresolved r hr id filed hfiled hid :=
    (namesRelation_assemble hnodup (List.mem_of_mem_filter hfiled)).ne_unresolved r hr hid.symm
  filterMap_relation? id := by
    rw [get_namesUnder]
    exact filterMap_relation?_map_id hnodup fun _ hr => List.mem_of_mem_filter hr

/-- Every model that is built files its relations under both of their ends. -/
theorem filesRelations_of_build {sources : List Source} {built : Built}
    (h : (Model.build sources).value = .ok built) : FilesRelations built.model := by
  obtain ⟨hmodel, hnodup⟩ := assemble_of_build h
  rw [hmodel]
  have houtgoing := filesUnder_filter hnodup Relation.source
  have hincoming := filesUnder_filter hnodup Relation.target
  -- what is found at a name is what is left of the relations without the others
  rw [← funext (Model.relationsFrom_assemble (declaredItems sources))] at houtgoing
  rw [← funext (Model.relationsTo_assemble (declaredItems sources))] at hincoming
  refine ⟨houtgoing, hincoming, fun id r => ?_, fun id r => ?_⟩
  · rw [houtgoing.mem_iff, hincoming.mem_iff, ← and_or_left, Relation.touches, Bool.or_eq_true,
      decide_eq_true_eq, decide_eq_true_eq]
  · rw [houtgoing.mem_iff, hincoming.mem_iff, and_and_and_comm, and_self]

/-- Relations that are declared before their ends, lead from an element to itself, join the same
elements once more, and lead nowhere. -/
def jettySources : List Source :=
  [{ name := "jetty"
     decls :=
      [.relation { id := "boat-to-pier", kind := .modeled .uses, source := "boat",
                   target := "pier" },
        .element (.node { id := "boat", kind := .custom "boat" } []),
        .relation { id := "boat-round", kind := .custom "turns", source := "boat",
                    target := "boat" },
        .relation { id := "boat-to-sea", kind := .modeled .uses, source := "boat",
                    target := "sea" },
        .element (.node { id := "pier", kind := .modeled .node } []),
        .relation { id := "boat-at-pier", kind := .modeled .link, source := "boat",
                    target := "pier" }] }]

/-- The relations at the boat: the turn is filed twice and the relation that leads nowhere not at
all. -/
theorem filesRelations_jettySources :
    ∃ built, (Model.build jettySources).value = .ok built ∧
      (built.model.relationsFrom ⟨"boat"⟩).map Relation.id =
        [⟨"boat-to-pier"⟩, ⟨"boat-round"⟩, ⟨"boat-at-pier"⟩] ∧
      (built.model.relationsTo ⟨"boat"⟩).map Relation.id = [⟨"boat-round"⟩] ∧
      FilesRelations built.model := by
  obtain ⟨built, hbuilt, hobserved⟩ :
      ∃ built, (Model.build jettySources).value = .ok built ∧
        ((built.model.relationsFrom ⟨"boat"⟩).map Relation.id,
          (built.model.relationsTo ⟨"boat"⟩).map Relation.id) =
            ([⟨"boat-to-pier"⟩, ⟨"boat-round"⟩, ⟨"boat-at-pier"⟩], [⟨"boat-round"⟩]) :=
    exists_built_of_map (by decide +kernel)
  simp only [Prod.mk.injEq] at hobserved
  exact ⟨built, hbuilt, hobserved.1, hobserved.2, filesRelations_of_build hbuilt⟩

end Viewpoint
