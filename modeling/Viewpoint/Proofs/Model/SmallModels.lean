import Viewpoint.Proofs.Model.Refusal
import Viewpoint.Proofs.Model.SameFacts
import Viewpoint.Proofs.Model.Walks

/-!
# Small models

What all models have in common is tried out on small ones: an element that stands alone, a relation
from an element to itself, and an element inside another one. Each of them is built from a source
that declares its items one by one, whatever they are called.

* `Occurs` says that sources can be built into a model with a given item.
* `occurs_alone`, `occurs_loopAt` and `occurs_held` are the items of the small models.
-/

namespace Viewpoint

/-- Some sources are built into the model, and the item is one of its items. -/
def Occurs (model : Model) (item : Item) : Prop :=
  (∃ sources built, (Model.build sources).value = .ok built ∧ built.model = model) ∧
    item ∈ model.items

variable {items : List Item} {item : Item}

/-- Items with distinct names, none of which lies inside itself, are built into a model. -/
theorem occurs_assemble (hnodup : (items.map Item.id).Nodup)
    (hacyclic : ∀ id, ¬ LeadsTo (Model.assemble items).parent? id id)
    (hitem : item ∈ (Model.assemble items).items) : Occurs (Model.assemble items) item := by
  have hbuild : (Model.build [⟨"", items.map Item.decl⟩]).value = Model.ofItems items := by
    rw [build_of_nodup, declaredItems_map_decl]
    rwa [declaredItems_map_decl]
  rcases ofItems_cases items with ⟨path, -, id, hcycle⟩ | ⟨built, hbuilt, -⟩
  · exact absurd hcycle (hacyclic id)
  · exact ⟨⟨_, built, hbuild.trans hbuilt, (Model.ofItems_eq_ok hbuilt).1⟩, hitem⟩

/-- Where nothing is placed, nothing lies in anything. -/
theorem parent?_of_placementsOf_eq_nil (h : placementsOf items = []) (id : Ident) :
    (Model.assemble items).parent? id = none := by
  rw [parent?_assemble, h]
  rfl

/-- Where nothing is placed, nothing lies inside itself. -/
theorem acyclic_of_placementsOf_eq_nil (h : placementsOf items = []) (id : Ident) :
    ¬ LeadsTo (Model.assemble items).parent? id id :=
  not_leadsTo_of_none (parent?_of_placementsOf_eq_nil h id)

section Alone

/-- The model of one element. -/
def Element.model (e : Element) : Model :=
  Model.assemble [.element e]

variable {e : Element} (howner : e.owner = none)

include howner

/-- An element that belongs to no other one is not placed. -/
theorem placementsOf_alone : placementsOf [.element e] = [] := by
  simp [placementsOf, Item.element?, Item.relation?, Element.placement?, howner]

/-- Nothing holds an element that stands alone, and it holds nothing. -/
theorem parent?_alone (id : Ident) : e.model.parent? id = none :=
  parent?_of_placementsOf_eq_nil (placementsOf_alone howner) id

/-- Nor does it lie inside anything at any depth, or anything inside it. -/
theorem isAncestor_alone (ancestor id : Ident) : e.model.isAncestor ancestor id = false := by
  rw [Bool.eq_false_iff, Ne, Element.model, (placesElements_assemble _).isAncestor_iff]
  exact not_leadsTo_of_none (parent?_alone howner id)

/-- An element that belongs to no other one stands alone in a model. -/
theorem occurs_alone : Occurs e.model (.element e) := by
  refine occurs_assemble (List.nodup_singleton _)
    (acyclic_of_placementsOf_eq_nil (placementsOf_alone howner)) ?_
  have hsame : e.resolveOwner (isElementOf [.element e]) = e := by
    rw [Element.resolveOwner, howner, Option.filter_none, ← howner]
  simp [Model.items, Model.elements_assemble, Item.element?, hsame]

end Alone

/-- An element of any name. -/
def nodeAt (id : Ident) : Element where
  id := id
  kind := .modeled .node

/-- A relation from an element to itself, under a name of its own. -/
def loopAt (id : Ident) : Relation where
  id := ⟨id.text ++ "/"⟩
  kind := .modeled .uses
  source := id
  target := id

/-- The model of an element with a relation to itself. -/
def loopModel (id : Ident) : Model :=
  Model.assemble [.element (nodeAt id), .relation (loopAt id)]

/-- The name with one more separator is another one. -/
theorem append_separator_ne (id : Ident) : (⟨id.text ++ "/"⟩ : Ident) ≠ id := by
  intro h
  have hlength := congrArg (fun id => id.text.toList.length) h
  simp at hlength

/-- There is a model with a relation from an element of any name to itself. -/
theorem occurs_loopAt (id : Ident) : Occurs (loopModel id) (.relation (loopAt id)) := by
  refine occurs_assemble ?_ (acyclic_of_placementsOf_eq_nil ?_) ?_
  · simpa [Item.id, nodeAt, loopAt] using (append_separator_ne id).symm
  · simp [placementsOf, Item.element?, Item.relation?, Element.placement?, Relation.placement?,
      nodeAt, loopAt, RelationKind.isContainment]
  · simp [Model.items, Model.relations_assemble, Item.element?, Item.relation?,
      Relation.isResolved, isElementOf, nodeAt, loopAt]

/-- An element that belongs to another one. -/
def nodeIn (child parent : Ident) : Element where
  id := child
  kind := .modeled .node
  owner := some parent

/-- The model of an element inside another one. -/
def heldModel (child parent : Ident) : Model :=
  Model.assemble [.element (nodeAt parent), .element (nodeIn child parent)]

variable {child parent : Ident}

/-- The inner element is placed in the outer one. -/
theorem placementsOf_held : placementsOf
    [.element (nodeAt parent), .element (nodeIn child parent)] = [⟨child, parent⟩] := by
  simp [placementsOf, List.filterMap_cons, Item.element?, Item.relation?, Element.placement?,
    nodeAt, nodeIn, isElementOf, Option.filter_some]

/-- Nothing else is placed. -/
theorem parent?_heldModel (id : Ident) :
    (heldModel child parent).parent? id = if child = id then some parent else none := by
  rw [heldModel, parent?_assemble, placementsOf_held]
  by_cases h : child = id
  · simp [h]
  · simp [h]

/-- The inner element lies inside the outer one. -/
theorem isAncestor_heldModel : (heldModel child parent).isAncestor parent child = true := by
  refine (placesElements_assemble _).isAncestor_iff.2 (.of_next ?_)
  exact (parent?_heldModel child).trans (if_pos rfl)

/-- Neither lies inside itself. -/
theorem acyclic_heldModel (hne : child ≠ parent) (id : Ident) :
    ¬ LeadsTo (heldModel child parent).parent? id id := by
  by_cases hid : child = id
  · subst hid
    -- the walk from the inner element ends at the outer one
    have hnext : (heldModel child parent).parent? child = some parent := by
      rw [parent?_heldModel, if_pos rfl]
    have hend : (heldModel child parent).parent? parent = none := by
      rw [parent?_heldModel, if_neg hne]
    rw [leadsTo_iff_of_next hnext]
    exact not_or.2 ⟨hne.symm, not_leadsTo_of_none hend⟩
  · refine not_leadsTo_of_none ?_
    rw [parent?_heldModel, if_neg hid]

/-- There is a model with an element of any name inside one of any other name. -/
theorem occurs_held (hne : child ≠ parent) :
    Occurs (heldModel child parent) (.element (nodeIn child parent)) ∧
      Occurs (heldModel child parent) (.element (nodeAt parent)) := by
  have hnodup : ([.element (nodeAt parent), .element (nodeIn child parent)].map
      Item.id).Nodup := by
    simpa [Item.id, nodeAt, nodeIn] using hne.symm
  have hacyclic := acyclic_heldModel hne
  constructor
  · refine occurs_assemble hnodup hacyclic ?_
    simp [Model.items, Model.elements_assemble, Item.element?, Element.resolveOwner, isElementOf,
      nodeAt, nodeIn, Option.filter_some]
  · refine occurs_assemble hnodup hacyclic ?_
    simp [Model.items, Model.elements_assemble, Item.element?, Element.resolveOwner, nodeAt, nodeIn]

end Viewpoint
