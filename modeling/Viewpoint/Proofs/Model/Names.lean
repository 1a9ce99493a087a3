import Viewpoint.Proofs.Model.Merge
import Viewpoint.Proofs.Model.Placement

/-!
# Names in a model

The declarations that a model is built from have distinct names. So a name belongs to one element,
or to one resolved relation, or to a relation that is kept aside, or to nothing; no name belongs to
two of them.

* `NamesElement` and `NamesRelation` say that a name is that of an element, or of a resolved
  relation, and of nothing else.
* `assemble_of_build` says what a model that is built is made of.
* `namesElement_of_element?` and `namesRelation_of_relation?` say that in a model that is built
  every name that is found is such a name.
-/

namespace Viewpoint

/-- A name of an element of the model, and neither of a relation nor undeclared. -/
structure NamesElement (model : Model) (id : Ident) : Prop where
  /-- The model has an element of this name. -/
  isElement : (model.element? id).isSome
  /-- The name is declared. -/
  isDeclared : id ∈ model.declared
  /-- No relation has the name, resolved or not. -/
  ne_relation : ∀ r ∈ model.relations ++ model.unresolved, r.id ≠ id

/-- A name of a resolved relation of the model, and neither of an element, nor of a relation that is
kept aside, nor undeclared. -/
structure NamesRelation (model : Model) (id : Ident) : Prop where
  /-- The model has a resolved relation of this name. -/
  isRelation : (model.relation? id).isSome
  /-- The name is declared. -/
  isDeclared : id ∈ model.declared
  /-- No element has the name. -/
  ne_element : ∀ e ∈ model.elements, e.id ≠ id
  /-- No relation that is kept aside has the name. -/
  ne_unresolved : ∀ r ∈ model.unresolved, r.id ≠ id

section Keys

variable {α κ : Type} [DecidableEq κ] {id : κ} {a : α}

/-- Under the key of a member there is found a member, and this is its key. -/
theorem exists_find?_of_mem (key : α → κ) {members : List α} (ha : a ∈ members)
    (hkey : key a = id) :
    ∃ found, members.find? (key · = id) = some found ∧ found ∈ members ∧ key found = id := by
  obtain ⟨found, hfound⟩ : ∃ found, members.find? (key · = id) = some found := by
    rw [← Option.isSome_iff_exists, List.find?_isSome]
    exact ⟨a, ha, decide_eq_true hkey⟩
  exact ⟨found, hfound, List.mem_of_find?_eq_some hfound, by simpa using List.find?_some hfound⟩

/-- Among members with distinct keys, each one is found under its key. -/
theorem find?_eq_some_iff_of_nodup {key : α → κ} {members : List α}
    (hnodup : (members.map key).Nodup) :
    members.find? (key · = id) = some a ↔ a ∈ members ∧ key a = id := by
  constructor
  · intro hfind
    exact ⟨List.mem_of_find?_eq_some hfind, by simpa using List.find?_some hfind⟩
  · rintro ⟨ha, rfl⟩
    obtain ⟨found, hfound, hmem, hkey⟩ := exists_find?_of_mem key ha rfl
    -- what is found has the same key, and so it is the same member
    rw [hfound, List.inj_on_of_nodup_map hnodup hmem ha hkey]

/-- In two lists with the same members and distinct keys, the same is found under each key. -/
theorem find?_eq_of_mem_iff {key : α → κ} {left right : List α}
    (hleft : (left.map key).Nodup) (hright : (right.map key).Nodup)
    (hmem : ∀ a, a ∈ left ↔ a ∈ right) (id : κ) :
    left.find? (key · = id) = right.find? (key · = id) := by
  ext a
  rw [find?_eq_some_iff_of_nodup hleft, find?_eq_some_iff_of_nodup hright, hmem]

end Keys

variable {items : List Item}

/-- In an assembled model there are elements under the names that declared elements have. -/
theorem isSome_element?_assemble (id : Ident) :
    ((Model.assemble items).element? id).isSome = isElementOf items id := by
  rw [Model.element?, Model.elements_assemble, List.isSome_find?, List.any_map, isElementOf]
  rfl

/-- Among items with distinct names, the names of the elements name elements only. -/
theorem namesElement_assemble (hnodup : (items.map Item.id).Nodup) {id : Ident}
    (h : isElementOf items id = true) : NamesElement (Model.assemble items) id := by
  have hisSome : ((Model.assemble items).element? id).isSome = true := by
    rw [isSome_element?_assemble, h]
  obtain ⟨e, he, rfl⟩ := isElementOf_iff.1 h
  refine ⟨hisSome, List.mem_map.2 ⟨_, he, rfl⟩, ?_⟩
  · intro r hr hid
    have hmem : Item.relation r ∈ items := by
      rw [← mem_filterMap_relation?]
      rcases List.mem_append.1 hr with hr | hr
      · exact List.mem_of_mem_filter hr
      · exact List.mem_of_mem_filter hr
    -- two items of one name are the same item
    have heq := List.inj_on_of_nodup_map hnodup hmem he hid
    cases heq

/-- Among items with distinct names, the names of the resolved relations name these only. -/
theorem namesRelation_assemble (hnodup : (items.map Item.id).Nodup) {r : Relation}
    (hr : r ∈ (Model.assemble items).relations) : NamesRelation (Model.assemble items) r.id := by
  obtain ⟨hrelation, hresolved⟩ := List.mem_filter.1 hr
  have hmem : Item.relation r ∈ items := mem_filterMap_relation?.1 hrelation
  refine ⟨?_, List.mem_map.2 ⟨_, hmem, rfl⟩, ?_, ?_⟩
  · rw [Model.relation?, List.find?_isSome]
    exact ⟨r, hr, by simp⟩
  · intro e he hid
    obtain ⟨written, hwritten, rfl⟩ := List.mem_map.1 he
    have heq := List.inj_on_of_nodup_map hnodup (mem_filterMap_element?.1 hwritten) hmem hid
    cases heq
  · intro other hother hid
    obtain ⟨hother, hunresolved⟩ := List.mem_filter.1 hother
    have heq := List.inj_on_of_nodup_map hnodup (mem_filterMap_relation?.1 hother) hmem hid
    cases heq
    rw [hresolved] at hunresolved
    cases hunresolved

namespace Model

variable {model : Model} {id : Ident}

/-- An element is found under its own name. -/
theorem id_of_element? {e : Element} (h : model.element? id = some e) : e.id = id := by
  simpa using List.find?_some h

/-- A resolved relation is found under its own name. -/
theorem id_of_relation? {r : Relation} (h : model.relation? id = some r) : r.id = id := by
  simpa using List.find?_some h

/-- An item that is an element is found among the elements. -/
theorem item?_eq_some_element {e : Element} :
    model.item? id = some (.element e) ↔ model.element? id = some e := by
  rw [item?]
  cases model.element? id with
  | none => simp
  | some e' => simp

/-- An item that is a relation is found among the resolved relations. -/
theorem relation?_of_item? {r : Relation} (h : model.item? id = some (.relation r)) :
    model.relation? id = some r := by
  rw [item?] at h
  cases he : model.element? id with
  | none => simpa [he] using h
  | some e => simp [he] at h

/-- An item is found under its own name. -/
theorem id_of_item? {item : Item} (h : model.item? id = some item) : item.id = id := by
  cases item with
  | element e => exact id_of_element? (item?_eq_some_element.1 h)
  | relation r => exact id_of_relation? (relation?_of_item? h)

end Model

variable {sources : List Source} {built : Built} {id : Ident}

/-- A model that is built is assembled from the declared items, which have distinct names. -/
theorem assemble_of_build (h : (Model.build sources).value = .ok built) :
    built.model = Model.assemble (declaredItems sources) ∧
      ((declaredItems sources).map Item.id).Nodup := by
  obtain ⟨hitems, hnodup⟩ := build_eq_ok h
  exact ⟨(Model.ofItems_eq_ok hitems).1, hnodup⟩

/-- In a model that is built, a name under which there is an element is that of an element only. -/
theorem namesElement_of_element? (h : (Model.build sources).value = .ok built) {e : Element}
    (he : built.model.element? id = some e) : NamesElement built.model id := by
  obtain ⟨hmodel, hnodup⟩ := assemble_of_build h
  rw [hmodel] at he ⊢
  obtain ⟨written, hwritten, hresolved⟩ := List.mem_map.1 (List.mem_of_find?_eq_some he)
  have hid : written.id = id := by
    rw [← Model.id_of_element? he, ← hresolved]
    rfl
  exact namesElement_assemble hnodup
    (isElementOf_iff.2 ⟨written, mem_filterMap_element?.1 hwritten, hid⟩)

/-- In a model that is built, a name under which there is a resolved relation is that of a resolved
relation only. -/
theorem namesRelation_of_relation? (h : (Model.build sources).value = .ok built) {r : Relation}
    (hr : built.model.relation? id = some r) : NamesRelation built.model id := by
  obtain ⟨hmodel, hnodup⟩ := assemble_of_build h
  rw [hmodel] at hr ⊢
  rw [← Model.id_of_relation? hr]
  exact namesRelation_assemble hnodup (List.mem_of_find?_eq_some hr)

end Viewpoint
