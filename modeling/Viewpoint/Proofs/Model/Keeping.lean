import Mathlib.Data.List.Forall2
import Viewpoint.Proofs.Model.Forest

/-!
# Every declaration is kept

Building a model sorts the declarations and loses none. Each of them is found once, as an element,
as a resolved relation or as a relation that is kept aside, and in each of the three lists the order
of declaration is kept. Nothing in a declaration changes, but for an owner that is not declared.

* `StoredAs` says what becomes of a declared element.
* `KeepsDeclarations` says what becomes of all declarations and of their positions.
* `keepsDeclarations_of_build` says that every model that is built keeps its declarations.
-/

namespace Viewpoint

/-- An element is stored as it is declared, but for an owner that is no declared element. -/
structure StoredAs (items : List Item) (declared stored : Element) : Prop where
  /-- The owner is kept when it is a declared element, and cleared otherwise. -/
  owner_iff : ∀ owner, stored.owner = some owner ↔
    declared.owner = some owner ∧ isElementOf items owner = true
  /-- All other fields are the declared ones. -/
  rest : { stored with owner := none } = { declared with owner := none }

/-- The declarations are found in the model, each of them once and in their order. -/
structure KeepsDeclarations (items : List Item) (model : Model) : Prop where
  /-- The elements are the declared ones in their order. -/
  elements : List.Forall₂ (StoredAs items) (items.filterMap Item.element?) model.elements
  /-- The resolved relations are declared, and they follow the order of declaration. -/
  relations_sublist : (model.relations.map Item.relation).Sublist items
  /-- The relations that are kept aside are declared, and they follow the order of declaration. -/
  unresolved_sublist : (model.unresolved.map Item.relation).Sublist items
  /-- A declared relation is resolved exactly when both its ends are declared elements. -/
  mem_relations_iff : ∀ r, r ∈ model.relations ↔ .relation r ∈ items ∧
    isElementOf items r.source = true ∧ isElementOf items r.target = true
  /-- A declared relation is kept aside exactly when one of its ends is no declared element. -/
  mem_unresolved_iff : ∀ r, r ∈ model.unresolved ↔ .relation r ∈ items ∧
    ¬(isElementOf items r.source = true ∧ isElementOf items r.target = true)
  /-- The three lists together hold the declared names, and nothing else. -/
  names_perm : (model.elements.map Element.id ++
    (model.relations ++ model.unresolved).map Relation.id).Perm (items.map Item.id)
  /-- No name is found twice. -/
  nodup_names : (model.elements.map Element.id ++
    (model.relations ++ model.unresolved).map Relation.id).Nodup
  /-- A name has the position at which it is declared, and an undeclared one has none. -/
  declarationIndex_iff : ∀ id position, model.declarationIndex id = some position ↔
    ∃ item, items[position]? = some item ∧ item.id = id

variable {items : List Item}

/-- An element that drops an undeclared owner is stored as it is declared. -/
theorem storedAs_resolveOwner (items : List Item) (e : Element) :
    StoredAs items e (e.resolveOwner (isElementOf items)) where
  owner_iff owner := by simp [Element.resolveOwner, Option.filter_eq_some_iff]
  rest := rfl

/-- The relations that satisfy a test follow the order of the items. -/
theorem map_relation_filter_sublist (test : Relation → Bool) (items : List Item) :
    (((items.filterMap Item.relation?).filter test).map Item.relation).Sublist items := by
  -- by induction on the items: of these only relations that pass are kept
  induction items with
  | nil => simp
  | cons item rest ih =>
    cases item with
    | element e => exact ih.cons _
    | relation r =>
      by_cases h : test r = true
      · simpa [Item.relation?, h] using ih
      · simpa [Item.relation?, h] using ih.cons (.relation r)

/-- A declared relation is resolved exactly when both its ends are declared elements. -/
theorem mem_relations_assemble {r : Relation} :
    r ∈ (Model.assemble items).relations ↔ .relation r ∈ items ∧
      isElementOf items r.source = true ∧ isElementOf items r.target = true := by
  rw [Model.assemble, List.mem_filter, mem_filterMap_relation?, Relation.isResolved,
    Bool.and_eq_true]

/-- All other declared relations are kept aside. -/
theorem mem_unresolved_assemble {r : Relation} :
    r ∈ (Model.assemble items).unresolved ↔ .relation r ∈ items ∧
      ¬(isElementOf items r.source = true ∧ isElementOf items r.target = true) := by
  rw [Model.assemble, List.mem_filter, mem_filterMap_relation?, Relation.isResolved,
    Bool.not_eq_true', ← Bool.not_eq_true, Bool.and_eq_true]

/-- Elements and relations together are all items. -/
theorem element?_append_relation?_perm (items : List Item) :
    ((items.filterMap Item.element?).map Element.id ++
      (items.filterMap Item.relation?).map Relation.id).Perm (items.map Item.id) := by
  induction items with
  | nil => exact .refl _
  | cons item rest ih =>
    cases item with
    | element e => exact ih.cons e.id
    | relation r => exact List.perm_middle.trans (ih.cons r.id)

/-- Dropping owners leaves the names of the elements as they are. -/
theorem Model.ids_elements_assemble (items : List Item) :
    (Model.assemble items).elements.map Element.id =
      (items.filterMap Item.element?).map Element.id := by
  rw [Model.elements_assemble, List.map_map]
  rfl

/-- Assembling keeps each name once. -/
theorem names_assemble_perm (items : List Item) :
    ((Model.assemble items).elements.map Element.id ++
      ((Model.assemble items).relations ++ (Model.assemble items).unresolved).map
        Relation.id).Perm (items.map Item.id) := by
  have hrelations : ((Model.assemble items).relations ++ (Model.assemble items).unresolved).Perm
      (items.filterMap Item.relation?) :=
    List.filter_append_perm (Relation.isResolved (isElementOf items)) _
  rw [Model.ids_elements_assemble]
  exact ((hrelations.map Relation.id).append_left _).trans (element?_append_relation?_perm items)

/-- Among distinct names, a name has the position at which it is declared. -/
theorem declarationIndex_assemble (hnodup : (items.map Item.id).Nodup) {id : Ident}
    {position : Nat} :
    (Model.assemble items).declarationIndex id = some position ↔
      ∃ item, items[position]? = some item ∧ item.id = id := by
  have hname : (∃ item, items[position]? = some item ∧ item.id = id) ↔
      (items.map Item.id)[position]? = some id := by simp
  rw [hname, Model.declarationIndex, Model.assemble, List.idxOf?_eq_some_iff,
    List.getElem?_eq_some_iff]
  refine exists_congr fun hlt => and_iff_left_of_imp fun hid earlier hearlier heq => ?_
  -- a name that stands at two positions would not be distinct from itself
  exact hearlier.ne ((hnodup.getElem_inj_iff).1 (heq.trans hid.symm))

/-- Every model that is built keeps all declarations in their order. -/
theorem keepsDeclarations_of_build {sources : List Source} {built : Built}
    (h : (Model.build sources).value = .ok built) :
    KeepsDeclarations (declaredItems sources) built.model := by
  obtain ⟨hmodel, hnodup⟩ := assemble_of_build h
  rw [hmodel]
  have hperm := names_assemble_perm (declaredItems sources)
  exact
    { elements := by
        rw [Model.assemble, List.forall₂_map_right_iff, List.forall₂_same]
        exact fun e _ => storedAs_resolveOwner _ e
      relations_sublist := map_relation_filter_sublist _ _
      unresolved_sublist := map_relation_filter_sublist _ _
      mem_relations_iff := fun _ => mem_relations_assemble
      mem_unresolved_iff := fun _ => mem_unresolved_assemble
      names_perm := hperm
      nodup_names := hperm.nodup_iff.2 hnodup
      declarationIndex_iff := fun _ _ => declarationIndex_assemble hnodup }

/-- The declarations of the two sources: one relation is kept aside, and it still has a position. -/
theorem keepsDeclarations_shopSources :
    ∃ built, (Model.build shopSources).value = .ok built ∧
      built.model.unresolved.map Relation.id = [⟨"db-to-relation"⟩] ∧
      KeepsDeclarations (declaredItems shopSources) built.model := by
  obtain ⟨built, hbuilt, hunresolved⟩ :
      ∃ built, (Model.build shopSources).value = .ok built ∧
        built.model.unresolved.map Relation.id = [⟨"db-to-relation"⟩] :=
    exists_built_of_map (by decide +kernel)
  exact ⟨built, hbuilt, hunresolved, keepsDeclarations_of_build hbuilt⟩

end Viewpoint
