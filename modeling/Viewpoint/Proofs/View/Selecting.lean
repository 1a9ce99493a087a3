import Mathlib.Data.Prod.Lex
import Mathlib.Order.WithBot
import Viewpoint.Proofs.Model.DeclarationOrder
import Viewpoint.Proofs.View.Isolation
import Viewpoint.Proofs.View.SameAnswers

/-!
# Selecting in the order of declaration

Items can be selected by a query or by the body of a view. Both gather names, widen them, look the
items up and sort what they find. As a model lists its items in the order of their declarations
already, this comes to leaving out the items of the model that are not named, so a query and a view
select the same items, and they list them in the same order.

* `Model.rank` is what items are sorted by.
* `Model.ListsAsDeclared` says that the items of a model are listed in this order.
* `SelectsAsListed` says what queries and views select, and `selectsAsListed_of_build` that this
  holds in every model that is built.
-/

namespace Viewpoint

namespace Model

variable {model : Model}

/-- The place of an item in results: elements come before relations, and items of one sort follow
their declarations. -/
def rank (model : Model) (item : Item) : Bool ×ₗ WithBot Nat :=
  toLex (item.isRelation, model.declarationIndex item.id)

/-- Names are compared by the positions of their declarations, where no position is the least. -/
theorem declaredNoLater_iff {left right : Ident} : model.declaredNoLater left right = true ↔
    @LE.le (WithBot Nat) _ (model.declarationIndex left) (model.declarationIndex right) := by
  rw [declaredNoLater]
  cases model.declarationIndex left with
  | none => exact iff_of_true rfl bot_le
  | some i =>
    cases model.declarationIndex right with
    | none => exact iff_of_false Bool.false_ne_true (WithBot.not_coe_le_bot i)
    | some j => exact decide_eq_true_iff.trans WithBot.coe_le_coe.symm

/-- Items are compared by their ranks. -/
theorem mayPrecede_iff {left right : Item} :
    model.mayPrecede left right = true ↔ model.rank left ≤ model.rank right := by
  rw [mayPrecede, rank, rank, Prod.Lex.toLex_le_toLex]
  cases left with
  | element e =>
    cases right with
    | element e' => simp [Item.isRelation, Item.isElement, declaredNoLater_iff]
    | relation r' => simp [Item.isRelation, Item.isElement]
  | relation r =>
    cases right with
    | element e' => simp [Item.isRelation, Item.isElement]
    | relation r' => simp [Item.isRelation, Item.isElement, declaredNoLater_iff]

/-- Results are sorted. -/
theorem pairwise_inDeclaredOrder (items : List Item) :
    (model.inDeclaredOrder items).Pairwise fun a b => model.rank a ≤ model.rank b := by
  have hsorted : (model.inDeclaredOrder items).Pairwise fun a b => model.mayPrecede a b = true := by
    refine List.pairwise_mergeSort (fun a b c hab hbc => ?_) (fun a b => ?_) items
    · rw [mayPrecede_iff] at *
      exact hab.trans hbc
    · rw [Bool.or_eq_true, mayPrecede_iff, mayPrecede_iff]
      exact le_total _ _
  exact hsorted.imp mayPrecede_iff.1

/-- There is an item under the name of each item. -/
theorem contains_of_mem_items {item : Item} (h : item ∈ model.items) :
    model.contains item.id = true := by
  rw [contains, item?]
  rcases mem_items_iff.1 h with ⟨e, he, rfl⟩ | ⟨r, hr, rfl⟩
  · obtain ⟨found, hfound, -⟩ := exists_find?_of_mem Element.id he rfl
    rw [Item.id, element?, hfound]
    rfl
  · rw [Item.id]
    cases model.element? r.id with
    | some e => rfl
    | none =>
      rw [Option.isSome_map, relation?, List.find?_isSome]
      exact ⟨r, hr, decide_eq_true rfl⟩

/-- Include flags add names of items only. -/
theorem contains_of_mem_additions {set : IdentSet} {flag : IncludeFlag} {id : Ident}
    (h : id ∈ model.additions set flag) : model.contains id = true := by
  cases flag with
  | relations =>
    obtain ⟨r, hr, -, rfl⟩ := mem_additions_relations.1 h
    exact contains_of_mem_items (mem_items_iff.2 (Or.inr ⟨r, hr, rfl⟩))
  | related =>
    obtain ⟨⟨e, he, rfl⟩, -⟩ := mem_additions_related.1 h
    exact contains_of_mem_items (mem_items_iff.2 (Or.inl ⟨e, he, rfl⟩))

/-- Names of items are widened to names of items. -/
theorem contains_of_mem_expand {set : IdentSet} {flags : List IncludeFlag}
    (hset : ∀ id ∈ set.toList, model.contains id = true) :
    ∀ id ∈ (model.expand set flags).toList, model.contains id = true := by
  -- by induction on the flags, each of which widens what the ones before have left
  induction flags generalizing set with
  | nil => exact hset
  | cons flag rest ih =>
    refine ih fun id hid => ?_
    rcases IdentSet.mem_addAll.1 hid with hid | hid
    · exact hset id hid
    · exact contains_of_mem_additions hid

/-- The names that criteria find, widened by include flags. -/
def foundNames (model : Model) (criteria : Criteria) (flags : List IncludeFlag) : IdentSet :=
  model.expand (.ofList ((model.items.filter (model.satisfies criteria)).map Item.id)) flags

/-- What is found are names of items. -/
theorem contains_of_mem_foundNames {criteria : Criteria} {flags : List IncludeFlag} :
    ∀ id ∈ (model.foundNames criteria flags).toList, model.contains id = true := by
  refine contains_of_mem_expand fun id hid => ?_
  obtain ⟨item, hitem, rfl⟩ := List.mem_map.1 (IdentSet.mem_toList_ofList.1 hid)
  exact contains_of_mem_items (List.mem_of_mem_filter hitem)

/-- The items of a model have distinct names, and they are listed in the order of their
declarations. -/
structure ListsAsDeclared (model : Model) : Prop where
  /-- Elements that are listed earlier are declared earlier. -/
  elements : model.elements.Pairwise fun a b => model.DeclaredEarlier a.id b.id
  /-- So are relations. -/
  relations : model.relations.Pairwise fun a b => model.DeclaredEarlier a.id b.id
  /-- No two items have the same name. -/
  nodup_ids : (model.items.map Item.id).Nodup

namespace ListsAsDeclared

variable (h : model.ListsAsDeclared)

include h

/-- The items are sorted, and no two of them have the same rank. -/
theorem pairwise_rank : model.items.Pairwise fun a b => model.rank a < model.rank b := by
  -- items of one sort differ in their positions, and elements and relations in the sort
  have hsame : ∀ a b : Item, a.isRelation = b.isRelation → model.DeclaredEarlier a.id b.id →
      model.rank a < model.rank b := by
    rintro a b hsort ⟨i, j, hi, hj, hlt⟩
    rw [rank, rank, Prod.Lex.toLex_lt_toLex, hi, hj]
    exact Or.inr ⟨hsort, WithBot.coe_lt_coe.2 hlt⟩
  rw [items, List.pairwise_append, List.pairwise_map, List.pairwise_map]
  refine ⟨h.elements.imp fun {a b} hab => hsame (.element a) (.element b) rfl hab,
    h.relations.imp fun {a b} hab => hsame (.relation a) (.relation b) rfl hab,
    fun a ha b hb => ?_⟩
  obtain ⟨e, -, rfl⟩ := List.mem_map.1 ha
  obtain ⟨r, -, rfl⟩ := List.mem_map.1 hb
  rw [rank, rank, Prod.Lex.toLex_lt_toLex]
  exact Or.inl Bool.false_lt_true

/-- An item is the only one of its rank. -/
theorem eq_of_rank_eq {a b : Item} (ha : a ∈ model.items) (hb : b ∈ model.items)
    (hrank : model.rank a = model.rank b) : a = b := by
  have hnodup : (model.items.map model.rank).Nodup :=
    List.pairwise_map.2 (h.pairwise_rank.imp ne_of_lt)
  exact List.inj_on_of_nodup_map hnodup ha hb hrank

/-- Sorting some of the items is leaving out the others. -/
theorem inDeclaredOrder_eq {found : List Item} (hnodup : found.Nodup)
    (hfound : ∀ item ∈ found, item ∈ model.items) :
    model.inDeclaredOrder found = model.items.filter (· ∈ found) := by
  have hperm : (model.inDeclaredOrder found).Perm (model.items.filter (· ∈ found)) := by
    refine (List.mergeSort_perm found model.mayPrecede).trans ?_
    rw [List.perm_ext_iff_of_nodup hnodup (h.nodup_ids.of_map.filter _)]
    intro item
    rw [List.mem_filter, decide_eq_true_iff]
    exact (and_iff_right_of_imp (hfound item)).symm
  have hlisted : (model.items.filter (· ∈ found)).Pairwise fun a b =>
      model.rank a ≤ model.rank b := (h.pairwise_rank.imp le_of_lt).filter _
  -- both are sorted, and ranks tell the members of either apart
  refine hperm.eq_of_pairwise (fun a b ha hb hab hba => ?_) (pairwise_inDeclaredOrder found) hlisted
  exact h.eq_of_rank_eq (hfound a (List.mem_mergeSort.1 ha)) (List.mem_of_mem_filter hb)
    (le_antisymm hab hba)

/-- An item is the only one of its name. -/
theorem eq_of_id_eq {a b : Item} (ha : a ∈ model.items) (hb : b ∈ model.items)
    (hid : a.id = b.id) : a = b :=
  List.inj_on_of_nodup_map h.nodup_ids ha hb hid

/-- An item is what is found under its name. -/
theorem item?_eq_some_iff {id : Ident} {item : Item} :
    model.item? id = some item ↔ item ∈ model.items ∧ item.id = id := by
  refine ⟨fun hfind => ⟨mem_items_of_item? hfind, id_of_item? hfind⟩, ?_⟩
  rintro ⟨hitem, rfl⟩
  obtain ⟨found, hfound⟩ := Option.isSome_iff_exists.1 (contains_of_mem_items hitem)
  rw [hfound, h.eq_of_id_eq (mem_items_of_item? hfound) hitem (id_of_item? hfound)]

/-- Looking up distinct names and sorting what is found is leaving out the items of other names. -/
theorem inDeclaredOrder_filter_item? {ids : List Ident} (hnodup : ids.Nodup) (test : Item → Bool) :
    model.inDeclaredOrder ((ids.filterMap model.item?).filter test) =
      (model.items.filter (ids.contains ·.id)).filter test := by
  have hdistinct : (ids.filterMap model.item?).Nodup := by
    refine List.Nodup.of_map Item.id ?_
    rw [Model.map_id_filterMap_item?]
    exact hnodup.filter _
  rw [h.inDeclaredOrder_eq (hdistinct.filter test)
    fun item hitem => mem_items_of_mem_filterMap_item? (List.mem_of_mem_filter hitem),
    List.filter_filter]
  -- an item of the model is found exactly when its name is one of those that are looked up
  refine List.filter_congr fun item hitem => ?_
  have hfound : item ∈ ids.filterMap model.item? ↔ item.id ∈ ids := by
    simp only [List.mem_filterMap, h.item?_eq_some_iff, hitem, true_and, exists_eq_right']
  simp [List.mem_filter, hfound, Bool.and_comm]

end ListsAsDeclared

end Model

/-- What queries and views select. -/
structure SelectsAsListed (model : Model) : Prop where
  /-- The items are listed as they are declared. -/
  listed : model.ListsAsDeclared
  /-- A query selects the listed items that are matched or added by a flag, as they are listed. -/
  select_eq : ∀ settings criteria flags, (model.select settings criteria flags).value.items =
    model.items.filter fun item =>
      (model.expand (model.matching settings criteria).value flags).contains item.id
  /-- Whatever is matched or added is selected. -/
  ids_perm : ∀ settings criteria flags, (model.select settings criteria flags).value.ids.Perm
    (model.expand (model.matching settings criteria).value flags).toList
  /-- Nothing is selected twice. -/
  nodup_ids : ∀ settings criteria flags, (model.select settings criteria flags).value.ids.Nodup
  /-- A query without flags selects the listed items that meet the criteria. -/
  select_nil : ∀ settings criteria,
    (model.select settings criteria []).value.items = model.items.filter (model.satisfies criteria)
  /-- A view that selects and is not a custom one composes. It shows what the query selects, without
  what it excludes, and it shows each record as it is and gives it no rank. -/
  compose_selection : ∀ (set : ViewSet) (settings : Settings) (selection : SelectionSettings),
    ∀ view ∈ set.views, view.kind ≠ .modeled .custom → ∀ criteria flags exclude,
      view.body = .selection criteria flags exclude →
        ∃ content, (set.compose model settings view.id).value = .ok content ∧
          content.entries =
            ((model.select selection criteria flags).value.items.filter fun item =>
              !exclude.any (model.satisfies · item)).map fun item => { item }

namespace Model

variable {items : List Item}

/-- A model of declarations with distinct names lists them as they are declared. -/
theorem listsAsDeclared_assemble (hnodup : (items.map Item.id).Nodup) :
    (assemble items).ListsAsDeclared := by
  have hdeclared := pairwise_declaredEarlier hnodup
  refine ⟨List.pairwise_map.1 (hdeclared.sublist (ids_elements_sublist items)),
    List.pairwise_map.1 (hdeclared.sublist (ids_relations_sublist items)), ?_⟩
  -- the names of the items are some of those of all declarations
  have hnames := (names_assemble_perm items).nodup_iff.2 hnodup
  rw [List.map_append, ← List.append_assoc] at hnames
  rw [Model.items, List.map_append, List.map_map, List.map_map]
  exact (List.nodup_append.1 hnames).1

/-- Criteria find the same whatever is noted. -/
theorem expand_matching (model : Model) (settings : SelectionSettings) (criteria : Criteria)
    (flags : List IncludeFlag) :
    model.expand (model.matching settings criteria).value flags =
      model.foundNames criteria flags := by
  rw [value_matching, foundNames]

/-- Nothing that is found is lost. -/
theorem ids_select_perm (model : Model) (settings : SelectionSettings) (criteria : Criteria)
    (flags : List IncludeFlag) :
    (model.select settings criteria flags).value.ids.Perm
      (model.foundNames criteria flags).toList := by
  rw [select, Logged.value_bind, Logged.value_pure, expand_matching, Selection.ids, itemsOf,
    inDeclaredOrder]
  -- sorting loses nothing, and looking up loses only names without an item, of which there are none
  have hfound := (List.mergeSort_perm ((model.foundNames criteria flags).toList.filterMap
    model.item?) model.mayPrecede).map Item.id
  rwa [map_id_filterMap_item?, List.filter_eq_self.2 contains_of_mem_foundNames] at hfound

namespace ListsAsDeclared

variable {model : Model} (h : model.ListsAsDeclared)

include h

/-- A query selects the items whose names are found. -/
theorem items_select (settings : SelectionSettings) (criteria : Criteria)
    (flags : List IncludeFlag) : (model.select settings criteria flags).value.items =
      model.items.filter ((model.foundNames criteria flags).contains ·.id) := by
  -- a query looks up and sorts as a view does, but it leaves nothing out in between
  have hsorted := h.inDeclaredOrder_filter_item? (model.foundNames criteria flags).nodup
    fun _ => true
  rw [List.filter_true, List.filter_true] at hsorted
  rw [select, Logged.value_bind, Logged.value_pure, expand_matching, itemsOf, hsorted]
  rfl

/-- A selection body has the entries of the items that the query selects and that are not
excluded. -/
theorem value_selectedEntries (settings selection : SelectionSettings) (criteria : Criteria)
    (flags : List IncludeFlag) (exclude : Option Criteria) :
    (model.selectedEntries settings criteria flags exclude).value =
      ((model.select selection criteria flags).value.items.filter fun item =>
        !exclude.any (model.satisfies · item)).map fun item => { item } := by
  rw [selectedEntries, Logged.value_bind, h.items_select]
  simp only [Logged.value_pure, expand_matching]
  rw [h.inDeclaredOrder_filter_item? (model.foundNames criteria flags).nodup]
  rfl

/-- Without flags the names of the matching items are found. -/
theorem filter_foundNames (criteria : Criteria) :
    model.items.filter ((model.foundNames criteria []).contains ·.id) =
      model.items.filter (model.satisfies criteria) := by
  refine List.filter_congr fun item hitem => ?_
  rw [Bool.eq_iff_iff, foundNames, expand, List.foldl_nil, IdentSet.contains_iff,
    IdentSet.mem_toList_ofList, List.mem_map]
  constructor
  · rintro ⟨other, hother, hid⟩
    obtain ⟨hmem, hsatisfies⟩ := List.mem_filter.1 hother
    rwa [← h.eq_of_id_eq hmem hitem hid]
  · exact fun hsatisfies => ⟨item, List.mem_filter.2 ⟨hitem, hsatisfies⟩, rfl⟩

/-- Models that list their items as they are declared select as they list. -/
theorem selectsAsListed : SelectsAsListed model where
  listed := h
  select_eq settings criteria flags := by rw [h.items_select, expand_matching]
  ids_perm settings criteria flags := by
    rw [expand_matching]
    exact ids_select_perm model settings criteria flags
  nodup_ids settings criteria flags :=
    (ids_select_perm model settings criteria flags).nodup_iff.2 (IdentSet.nodup _)
  select_nil settings criteria := by rw [h.items_select, h.filter_foundNames]
  compose_selection := by
    intro set settings selection view hview hkind criteria flags exclude hbody
    have hfind : set.find? view.id = some view := ViewSet.find?_of_mem hview
    have hroot : view.body.base? = none := by
      rw [hbody]
      rfl
    -- only custom views are refused for what they show
    have hoffender : ∀ entries, view.offender? entries = none := fun _ => if_neg hkind
    refine ⟨_, (ViewSet.compose_of_root hfind hroot).trans
      (finishContent_of_no_offender (hoffender _)), ?_⟩
    rw [entries_ofEntries, ViewSet.entriesOf_of_root hfind hroot, ownEntries, hbody]
    exact h.value_selectedEntries settings.selection selection criteria flags exclude

end ListsAsDeclared

end Model

/-- In every model that is built, queries and views select items as the model lists them. -/
theorem selectsAsListed_of_build {sources : List Source} {built : Built}
    (h : (Model.build sources).value = .ok built) : SelectsAsListed built.model := by
  obtain ⟨hmodel, hnodup⟩ := assemble_of_build h
  rw [hmodel]
  exact (Model.listsAsDeclared_assemble hnodup).selectsAsListed

/-- The database, widened by what is related to it and then by the relations in between, is listed
behind the elements that are declared before it. -/
theorem selectsAsListed_shopSources :
    ∃ built, (Model.build shopSources).value = .ok built ∧
      (built.model.select {} (.all (Conjunction.and {} (.tag "storage")))
        [.related, .relations]).value.ids =
          [⟨"shop"⟩, ⟨"shop/web"⟩, ⟨"db"⟩, ⟨"db-in-shop"⟩, ⟨"web-to-db"⟩] ∧
      SelectsAsListed built.model := by
  obtain ⟨built, hbuilt, hlisted⟩ : ∃ built, (Model.build shopSources).value = .ok built ∧
      (built.model.items.filter ((built.model.foundNames
        (.all (Conjunction.and {} (.tag "storage"))) [.related, .relations]).contains ·.id)).map
          Item.id =
          [⟨"shop"⟩, ⟨"shop/web"⟩, ⟨"db"⟩, ⟨"db-in-shop"⟩, ⟨"web-to-db"⟩] :=
    exists_built_of_map (by decide +kernel)
  have hselects := selectsAsListed_of_build hbuilt
  refine ⟨built, hbuilt, ?_, hselects⟩
  rw [Selection.ids, hselects.listed.items_select, hlisted]

end Viewpoint
