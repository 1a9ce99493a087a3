import Viewpoint.Proofs.Model.SameFacts
import Viewpoint.Proofs.View.Composing

/-!
# Models that give the same answers

What a model answers depends on its items, on their containment and relations, and on the order in
which the items are declared. It depends neither on the relations that are kept aside nor on the
positions of declarations as such. So two models that agree on the former give the same answers with
the same notices, from single criteria up to composed views.

* `AnswersAlike` says that two models agree on what answers depend on.
* `AnswersAlike.satisfies_eq`, `AnswersAlike.expand_eq`, `AnswersAlike.select_eq` and
  `AnswersAlike.compose_eq` are the answers.
-/

namespace Viewpoint

/-- Two models have the same structure and declare their items in the same order. -/
structure AnswersAlike (model model' : Model) : Prop extends SameStructure model model' where
  /-- Of two items the same one is declared first. -/
  declaredNoLater_eq : ∀ left ∈ model.items, ∀ right ∈ model.items,
    model'.declaredNoLater left.id right.id = model.declaredNoLater left.id right.id

/-- Sorting asks only about the members. -/
theorem mergeSort_congr {α : Type} {before before' : α → α → Bool} {members : List α}
    (h : ∀ a ∈ members, ∀ b ∈ members, before' a b = before a b) :
    members.mergeSort before' = members.mergeSort before := by
  have hsort : (members.mergeSort before').map id = (members.map id).mergeSort before :=
    List.map_mergeSort h
  rwa [List.map_id, List.map_id] at hsort

/-- What is found under a name is an item. -/
theorem Model.mem_items_of_item? {model : Model} {id : Ident} {item : Item}
    (h : model.item? id = some item) : item ∈ model.items := by
  rw [Model.mem_items_iff]
  cases item with
  | element e =>
    have he : model.element? id = some e := item?_eq_some_element.1 h
    exact Or.inl ⟨e, List.mem_of_find?_eq_some he, rfl⟩
  | relation r =>
    have hr : model.relation? id = some r := relation?_of_item? h
    exact Or.inr ⟨r, List.mem_of_find?_eq_some hr, rfl⟩

/-- What is found under names are items. -/
theorem Model.mem_items_of_mem_filterMap_item? {model : Model} {ids : List Ident} {item : Item}
    (h : item ∈ ids.filterMap model.item?) : item ∈ model.items := by
  obtain ⟨id, -, hid⟩ := List.mem_filterMap.1 h
  exact mem_items_of_item? hid

namespace AnswersAlike

variable {model model' : Model} (h : AnswersAlike model model')

include h

theorem satisfies_eq : model'.satisfies = model.satisfies := by
  funext criteria item
  exact h.sameFacts.satisfies_eq criteria item

theorem matching_eq : model'.matching = model.matching := by
  funext settings criteria
  rw [Model.matching, Model.matching, h.items_eq, h.satisfies_eq]

theorem additions_eq : model'.additions = model.additions := by
  -- each element is asked about one by one, so here the facts alone decide
  have hrelated : model'.isRelatedTo = model.isRelatedTo := by
    funext set id
    exact h.sameFacts.isRelatedTo_eq (fun _ => rfl) id
  funext set flag
  cases flag with
  | relations => rw [Model.additions, Model.additions, h.relations_eq]
  | related => rw [Model.additions, Model.additions, h.elements_eq, hrelated]

/-- Sets are widened to the same sets. -/
theorem expand_eq : model'.expand = model.expand := by
  funext set flags
  rw [Model.expand, Model.expand, h.additions_eq]

/-- Items are put into the same order. -/
theorem inDeclaredOrder_eq {items : List Item} (hitems : ∀ item ∈ items, item ∈ model.items) :
    model'.inDeclaredOrder items = model.inDeclaredOrder items := by
  refine mergeSort_congr fun left hleft right hright => ?_
  have horder := h.declaredNoLater_eq left (hitems left hleft) right (hitems right hright)
  rw [Model.mayPrecede, Model.mayPrecede, horder]

/-- The same items are selected in the same order. -/
theorem select_eq : model'.select = model.select := by
  have hitemsOf : model'.itemsOf = model.itemsOf := by
    funext ids
    rw [Model.itemsOf, Model.itemsOf, h.item?_eq]
    -- names that are not those of items have been dropped, and of items the order is the same
    exact h.inDeclaredOrder_eq fun item hitem => Model.mem_items_of_mem_filterMap_item? hitem
  funext settings criteria flags
  rw [Model.select, Model.select, h.matching_eq, h.expand_eq, hitemsOf]

/-- A selection body gives the same entries. -/
theorem selectedEntries_eq : model'.selectedEntries = model.selectedEntries := by
  have hkept : ∀ (ids : List Ident) (exclude : Option Criteria),
      model'.inDeclaredOrder ((ids.filterMap model.item?).filter
        fun item => !exclude.any (model.satisfies · item)) =
          model.inDeclaredOrder ((ids.filterMap model.item?).filter
            fun item => !exclude.any (model.satisfies · item)) := by
    intro ids exclude
    refine h.inDeclaredOrder_eq fun item hitem => ?_
    exact Model.mem_items_of_mem_filterMap_item? (List.mem_of_mem_filter hitem)
  funext settings criteria flags exclude
  simp only [Model.selectedEntries, h.matching_eq, h.expand_eq, h.item?_eq, h.satisfies_eq, hkept]

theorem contains_eq : model'.contains = model.contains := by
  funext id
  rw [Model.contains, Model.contains, h.item?_eq]

theorem knownRefs_eq : model'.knownRefs = model.knownRefs := by
  funext seen content
  induction content generalizing seen with
  | nil => rfl
  | cons ref rest ih => rw [Model.knownRefs, Model.knownRefs, h.contains_eq, ih, ih]

theorem listedEntries_eq : model'.listedEntries = model.listedEntries := by
  have hentry : model'.entryOfRef? = model.entryOfRef? := by
    funext ref
    rw [Model.entryOfRef?, Model.entryOfRef?, h.item?_eq]
  funext content
  rw [Model.listedEntries, Model.listedEntries, h.knownRefs_eq, hentry]

theorem listWarnings_eq : model'.listWarnings = model.listWarnings := by
  funext view content
  rw [Model.listWarnings, Model.listWarnings, h.contains_eq, h.knownRefs_eq]

theorem ownEntries_eq : model'.ownEntries = model.ownEntries := by
  funext settings view
  rw [Model.ownEntries, Model.ownEntries, h.selectedEntries_eq, h.listedEntries_eq,
    h.listWarnings_eq]

/-- A base chain is composed in the same way. -/
theorem composeChain_eq (settings : Settings) (chain : BaseChain) :
    chain.compose model' settings = chain.compose model settings := by
  -- only the view at the end of the chain asks the model
  induction chain with
  | root view => rw [BaseChain.compose, BaseChain.compose, h.ownEntries_eq]
  | missing view base => rfl
  | cycle view path => rfl
  | filtered view filter base ih => rw [BaseChain.compose, BaseChain.compose, ih]

/-- Every view of every set is composed in the same way. -/
theorem compose_eq (set : ViewSet) (settings : Settings) (id : Ident) :
    set.compose model' settings id = set.compose model settings id := by
  rw [ViewSet.compose, ViewSet.compose]
  cases set.find? id with
  | none => rfl
  | some view => exact h.composeChain_eq settings (set.chain view)

end AnswersAlike

end Viewpoint
