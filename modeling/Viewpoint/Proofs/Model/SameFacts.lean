import Viewpoint.Proofs.Containment.Bounds
import Viewpoint.Proofs.Model.Names
import Viewpoint.Selection

/-!
# Models that state the same facts

Two models may list the same elements and relations in different orders. Criteria test one item at a
time, ask for holders and ask whether some relation is there, so they cannot tell the two models
apart; and what a selection is widened by depends on which items it has, not on their order. So from
both models the same items are selected.

* `SameFacts` says that two models have the same items, holders and relations at each element.
* `SameFacts.satisfies_eq`, `SameFacts.mem_expand_iff` and `SameFacts.mem_ids_select_iff` are the
  consequences for criteria, widening and selection.
* `SameStructure` says that the order is the same, too, and `sameStructure_assemble` which items
  give such models.
-/

namespace Viewpoint

/-- Two models state the same facts, maybe in different orders. -/
structure SameFacts (model model' : Model) : Prop where
  /-- They have the same elements. -/
  mem_elements_iff : ∀ e, e ∈ model'.elements ↔ e ∈ model.elements
  /-- They have the same number of elements. -/
  length_elements_eq : model'.elements.length = model.elements.length
  /-- They have the same resolved relations. -/
  mem_relations_iff : ∀ r, r ∈ model'.relations ↔ r ∈ model.relations
  /-- Under each name there is the same item. -/
  item?_eq : ∀ id, model'.item? id = model.item? id
  /-- Each element lies in the same one. -/
  parent?_eq : ∀ id, model'.parent? id = model.parent? id
  /-- The same relations start at each element. -/
  mem_relationsFrom_iff : ∀ id r, r ∈ model'.relationsFrom id ↔ r ∈ model.relationsFrom id
  /-- The same relations end at each element. -/
  mem_relationsTo_iff : ∀ id r, r ∈ model'.relationsTo id ↔ r ∈ model.relationsTo id

/-- Two lists with the same members agree on whether some member passes a test. -/
theorem any_eq_of_mem_iff {α : Type} {left right : List α} (h : ∀ a, a ∈ left ↔ a ∈ right)
    (test : α → Bool) : left.any test = right.any test := by
  rw [Bool.eq_iff_iff, List.any_eq_true, List.any_eq_true]
  exact exists_congr fun a => and_congr_left' (h a)

theorem IdentSet.contains_eq_of_mem_iff {set set' : IdentSet}
    (h : ∀ id, id ∈ set'.toList ↔ id ∈ set.toList) (id : Ident) :
    set'.contains id = set.contains id := by
  rw [Bool.eq_iff_iff, contains_iff, contains_iff, h id]

@[simp]
theorem IdentSet.mem_toList_ofList {ids : List Ident} {id : Ident} :
    id ∈ (ofList ids).toList ↔ id ∈ ids := by
  rw [ofList, mem_addAll]
  exact or_iff_right List.not_mem_nil

namespace Model

variable {model : Model} {set : IdentSet} {id : Ident}

theorem mem_items_iff {item : Item} :
    item ∈ model.items ↔ (∃ e ∈ model.elements, .element e = item) ∨
      ∃ r ∈ model.relations, .relation r = item := by
  rw [items, List.mem_append, List.mem_map, List.mem_map]

/-- Whatever is noted, criteria find what meets them. -/
theorem value_matching (settings : SelectionSettings) (criteria : Criteria) :
    (model.matching settings criteria).value =
      .ofList ((model.items.filter (model.satisfies criteria)).map Item.id) := by
  rw [matching]
  split <;> rfl

theorem mem_matching_iff {settings : SelectionSettings} {criteria : Criteria} :
    id ∈ (model.matching settings criteria).value.toList ↔
      ∃ item ∈ model.items, model.satisfies criteria item = true ∧ item.id = id := by
  simp only [value_matching, IdentSet.mem_toList_ofList, List.mem_map, List.mem_filter, and_assoc]

/-- The relations between members of a set are added to it. -/
theorem mem_additions_relations :
    id ∈ model.additions set .relations ↔ ∃ r ∈ model.relations,
      (set.contains r.source = true ∧ set.contains r.target = true) ∧ r.id = id := by
  simp only [additions, List.mem_map, List.mem_filter, Bool.and_eq_true, and_assoc]

/-- The elements that are related to a member of a set are added to it. -/
theorem mem_additions_related :
    id ∈ model.additions set .related ↔
      (∃ e ∈ model.elements, e.id = id) ∧ set.contains id = false ∧
        model.isRelatedTo set id = true := by
  simp only [additions, List.mem_filter, List.mem_map, Bool.and_eq_true, Bool.not_eq_true']

theorem mem_itemsOf {ids : List Ident} {item : Item} :
    item ∈ model.itemsOf ids ↔ ∃ id ∈ ids, model.item? id = some item := by
  rw [itemsOf, inDeclaredOrder, List.mem_mergeSort, List.mem_filterMap]

end Model

namespace SameFacts

variable {model model' : Model} (h : SameFacts model model')

include h

theorem mem_items_iff (item : Item) : item ∈ model'.items ↔ item ∈ model.items := by
  simp only [Model.mem_items_iff, h.mem_elements_iff, h.mem_relations_iff]

/-- A predicate holds of the same items. -/
theorem holds_eq (item : Item) (predicate : Predicate) :
    predicate.holds model' item = predicate.holds model item := by
  have hancestor : ∀ ancestor id,
      model'.isAncestor ancestor id = model.isAncestor ancestor id := by
    intro ancestor id
    rw [Model.isAncestor, Model.isAncestor, h.length_elements_eq]
    exact Containment.isAncestorWithin_congr h.parent?_eq _ ancestor id
  -- only the predicates about relations and about containment ask the model
  cases predicate with
  -- an element may be asked about all of its relations, a relation only about itself
  | refersTo other =>
    cases item with
    | element e => exact any_eq_of_mem_iff (h.mem_relationsFrom_iff e.id) _
    | relation r => rfl
  | referredBy other =>
    cases item with
    | element e => exact any_eq_of_mem_iff (h.mem_relationsTo_iff e.id) _
    | relation r => rfl
  | childOf other => rw [Predicate.holds, Predicate.holds, h.parent?_eq]
  | parentOf other => rw [Predicate.holds, Predicate.holds, h.parent?_eq]
  | descendantOf other => rw [Predicate.holds, Predicate.holds, hancestor]
  | ancestorOf other => rw [Predicate.holds, Predicate.holds, hancestor]
  | _ => rfl

theorem satisfies_eq (criteria : Criteria) (item : Item) :
    model'.satisfies criteria item = model.satisfies criteria item := by
  have hclause : Clause.holds model' item = Clause.holds model item := by
    funext clause
    rw [Clause.holds, Clause.holds, h.holds_eq]
  have hconjunction : Conjunction.holds model' item = Conjunction.holds model item := by
    funext conjunction
    rw [Conjunction.holds, Conjunction.holds, hclause]
  rw [Model.satisfies, Model.satisfies, hconjunction]

theorem mem_matching_iff (settings : SelectionSettings) (criteria : Criteria) (id : Ident) :
    id ∈ (model'.matching settings criteria).value.toList ↔
      id ∈ (model.matching settings criteria).value.toList := by
  simp only [Model.mem_matching_iff, h.mem_items_iff, h.satisfies_eq]

/-- The same elements are related to members of sets with the same members. -/
theorem isRelatedTo_eq {set set' : IdentSet} (hset : ∀ id, set'.contains id = set.contains id)
    (id : Ident) : model'.isRelatedTo set' id = model.isRelatedTo set id := by
  rw [Model.isRelatedTo, Model.isRelatedTo, any_eq_of_mem_iff (h.mem_relationsFrom_iff id),
    any_eq_of_mem_iff (h.mem_relationsTo_iff id)]
  simp only [hset]

/-- An include flag adds the same names to sets with the same members. -/
theorem mem_additions_iff {set set' : IdentSet} (hset : ∀ id, set'.contains id = set.contains id)
    (flag : IncludeFlag) (id : Ident) :
    id ∈ model'.additions set' flag ↔ id ∈ model.additions set flag := by
  cases flag with
  | relations => simp only [Model.mem_additions_relations, h.mem_relations_iff, hset]
  | related =>
    simp only [Model.mem_additions_related, h.mem_elements_iff, hset, h.isRelatedTo_eq hset]

/-- Sets with the same members are widened to sets with the same members. -/
theorem mem_expand_iff {set set' : IdentSet} (hset : ∀ id, id ∈ set'.toList ↔ id ∈ set.toList)
    (flags : List IncludeFlag) (id : Ident) :
    id ∈ (model'.expand set' flags).toList ↔ id ∈ (model.expand set flags).toList := by
  -- by induction on the flags: the sets that one flag makes have the same members again
  induction flags generalizing set set' with
  | nil => exact hset id
  | cons flag flags ih =>
    have hcontains : ∀ id, set'.contains id = set.contains id :=
      IdentSet.contains_eq_of_mem_iff hset
    have hstep : ∀ id, id ∈ (set'.addAll (model'.additions set' flag)).toList ↔
        id ∈ (set.addAll (model.additions set flag)).toList := by
      intro id
      rw [IdentSet.mem_addAll, IdentSet.mem_addAll, hset id, h.mem_additions_iff hcontains]
    exact ih hstep

/-- The same names are selected. -/
theorem mem_ids_select_iff (settings : SelectionSettings) (criteria : Criteria)
    (flags : List IncludeFlag) (id : Ident) :
    id ∈ (model'.select settings criteria flags).value.ids ↔
      id ∈ (model.select settings criteria flags).value.ids := by
  -- only the order of the selected items may differ, and their names are found in any order
  have hexpand : ∀ name,
      name ∈ (model'.expand (model'.matching settings criteria).value flags).toList ↔
        name ∈ (model.expand (model.matching settings criteria).value flags).toList :=
    h.mem_expand_iff (h.mem_matching_iff settings criteria) flags
  simp only [Model.select, Logged.value_bind, Logged.value_pure, Selection.ids, List.mem_map,
    Model.mem_itemsOf, hexpand, h.item?_eq]

end SameFacts

/-- Two models have the same items in the same order, with the same containment and the same
relations at each element. They may keep other relations aside and give items other positions. -/
structure SameStructure (model model' : Model) : Prop where
  /-- The elements are the same, in the same order. -/
  elements_eq : model'.elements = model.elements
  /-- So are the resolved relations. -/
  relations_eq : model'.relations = model.relations
  /-- So is what lies in what. -/
  containment_eq : model'.containment = model.containment
  /-- So are the relations at each element. -/
  adjacency_eq : model'.adjacency = model.adjacency

/-- Items that are stored, resolved and placed in the same way give models of the same structure. -/
theorem sameStructure_assemble {items items' : List Item}
    (helements : (Model.assemble items').elements = (Model.assemble items).elements)
    (hrelations : (Model.assemble items').relations = (Model.assemble items).relations)
    (hplacements : placementsOf items' = placementsOf items) :
    SameStructure (Model.assemble items) (Model.assemble items') where
  elements_eq := helements
  relations_eq := hrelations
  containment_eq := congrArg (∅ : Containment).putAll hplacements
  adjacency_eq := congrArg Adjacency.ofRelations hrelations

namespace SameStructure

variable {model model' : Model} (h : SameStructure model model')

include h

theorem items_eq : model'.items = model.items := by
  rw [Model.items, Model.items, h.elements_eq, h.relations_eq]

theorem item?_eq : model'.item? = model.item? := by
  funext id
  rw [Model.item?, Model.item?, Model.element?, Model.element?, Model.relation?, Model.relation?,
    h.elements_eq, h.relations_eq]

theorem parent?_eq (id : Ident) : model'.parent? id = model.parent? id := by
  rw [Model.parent?, Model.parent?, h.containment_eq]

theorem children_eq (id : Ident) : model'.children id = model.children id := by
  rw [Model.children, Model.children, h.containment_eq]

theorem relationsFrom_eq (id : Ident) : model'.relationsFrom id = model.relationsFrom id := by
  rw [Model.relationsFrom, Model.relationsFrom, h.adjacency_eq]

theorem relationsTo_eq (id : Ident) : model'.relationsTo id = model.relationsTo id := by
  rw [Model.relationsTo, Model.relationsTo, h.adjacency_eq]

/-- Models of the same structure state the same facts. -/
theorem sameFacts : SameFacts model model' where
  mem_elements_iff e := by rw [h.elements_eq]
  length_elements_eq := by rw [h.elements_eq]
  mem_relations_iff r := by rw [h.relations_eq]
  item?_eq id := by rw [h.item?_eq]
  parent?_eq := h.parent?_eq
  mem_relationsFrom_iff id r := by rw [h.relationsFrom_eq]
  mem_relationsTo_iff id r := by rw [h.relationsTo_eq]

end SameStructure

end Viewpoint
