import Viewpoint.Proofs.Containment.Bounds
import Viewpoint.Proofs.Model.Forest

/-!
# Above and below in a model

A model looks above and below an element within the number of its elements. Where its containment is
made by placing its elements in one another this cuts nothing off, whatever the containment looks
like: a tree, a circle, or a tail that leads into a circle.

* `Model.PlacesElements` says that elements of the model are placed in one another, and
  `placesElements_assemble` that this is so in every assembled model.
* `Model.PlacesElements.ancestors_eq`, `Model.PlacesElements.descendants_eq` and
  `Model.PlacesElements.isAncestor_iff` take the bound away.
* `WalksWhole` is what is found above and below an element, and `walksWhole` says that all models
  find it whose elements are placed in one another.
-/

namespace Viewpoint

namespace Model

/-- The containment of a model is made by placing elements of the model in one another, one after
the other and in any way. -/
def PlacesElements (model : Model) : Prop :=
  ∃ placements, model.containment = (∅ : Containment).putAll placements ∧
    ∀ placement ∈ placements,
      (model.element? placement.child).isSome ∧ (model.element? placement.parent).isSome

variable {model : Model} {id other : Ident}

/-- A name under which there is an element is that of an element. -/
theorem mem_map_id_of_isSome (h : (model.element? id).isSome) :
    id ∈ model.elements.map Element.id := by
  obtain ⟨e, he⟩ := Option.isSome_iff_exists.1 h
  exact List.mem_map.2 ⟨e, List.mem_of_find?_eq_some he, id_of_element? he⟩

namespace PlacesElements

variable (h : model.PlacesElements)

include h

/-- What has a holder is an element, and so is the holder. -/
theorem placesAmong : model.containment.PlacesAmong (model.elements.map Element.id) := by
  obtain ⟨placements, hmade, helements⟩ := h
  have hnames : ∀ {child parent}, model.containment.parent? child = some parent →
      (model.element? child).isSome ∧ (model.element? parent).isSome := by
    intro child parent hparent
    rw [hmade, Containment.parent?_putAll, Containment.parent?_empty, Option.none_or] at hparent
    obtain ⟨placement, hfind, rfl⟩ := Option.map_eq_some_iff.1 hparent
    have hchild : placement.child = child := by simpa using List.find?_some hfind
    exact hchild ▸ helements placement (List.mem_of_find?_eq_some hfind)
  exact ⟨fun hparent => mem_map_id_of_isSome (hnames hparent).1,
    fun hparent => mem_map_id_of_isSome (hnames hparent).2⟩

/-- All holders above an element are listed. -/
theorem ancestors_eq (id : Ident) : model.ancestors id = model.containment.ancestors id :=
  Containment.ancestorsWithin_eq h.placesAmong (List.length_map _).le id

/-- All that lies below an element is listed. -/
theorem descendants_eq (id : Ident) : model.descendants id = model.containment.descendants id :=
  Containment.descendantsWithin_eq h.placesAmong (List.length_map _).le id

/-- One element lies inside another when the walk of its holders meets the other one. -/
theorem isAncestor_iff : model.isAncestor other id = true ↔ LeadsTo model.parent? id other :=
  Containment.isAncestorWithin_iff h.placesAmong (List.length_map _).le

/-- Above an element are the others that the walk of its holders meets. -/
theorem mem_ancestors_iff :
    other ∈ model.ancestors id ↔ other ≠ id ∧ LeadsTo model.parent? id other := by
  rw [h.ancestors_eq, Containment.mem_ancestors_iff]
  rfl

/-- Below an element are the others whose walk of holders meets it. -/
theorem mem_descendants_iff :
    other ∈ model.descendants id ↔ other ≠ id ∧ LeadsTo model.parent? other id := by
  rw [h.descendants_eq, Containment.mem_descendants_iff]
  rfl

end PlacesElements

end Model

/-- In an assembled model elements are placed in one another. -/
theorem placesElements_assemble (items : List Item) : (Model.assemble items).PlacesElements := by
  refine ⟨placementsOf items, rfl, fun placement hplacement => ?_⟩
  rw [isSome_element?_assemble, isSome_element?_assemble]
  exact isElementOf_of_mem_placementsOf hplacement

/-- What a model finds above and below an element. -/
structure WalksWhole (model : Model) (id : Ident) : Prop where
  /-- Above the element its holders are listed in their turn. -/
  getElem?_ancestors : ∀ k < (model.ancestors id).length,
    (model.ancestors id)[k]? = walk model.parent? (k + 1) id
  /-- None of them is listed twice, and the element itself is not. -/
  nodup_ancestors : (id :: model.ancestors id).Nodup
  /-- The list goes on up to where the next holder is the element or listed already. -/
  ancestors_end : ∀ holder,
    walk model.parent? ((model.ancestors id).length + 1) id = some holder →
      holder ∈ id :: model.ancestors id
  /-- So the others are listed that one or more steps lead to. -/
  mem_ancestors_iff : ∀ other,
    other ∈ model.ancestors id ↔ other ≠ id ∧ LeadsTo model.parent? id other
  /-- Below the element nothing is listed twice. -/
  nodup_descendants : (model.descendants id).Nodup
  /-- The others are listed from which one or more steps lead to the element. -/
  mem_descendants_iff : ∀ other,
    other ∈ model.descendants id ↔ other ≠ id ∧ LeadsTo model.parent? other id
  /-- The element lies inside those that one or more steps lead to. -/
  isAncestor_iff : ∀ other, model.isAncestor other id = true ↔ LeadsTo model.parent? id other
  /-- So it lies inside itself exactly when it is on a circle. -/
  isAncestor_self_iff : model.isAncestor id id = true ↔
    ∃ path, ClosedPath (fun child parent => model.parent? child = some parent) id path
  /-- No answer changes when the bound is made greater. -/
  bound_irrelevant : ∀ bound, model.elements.length ≤ bound →
    model.containment.ancestorsWithin bound id = model.ancestors id ∧
      model.containment.descendantsWithin bound id = model.descendants id ∧
      ∀ other, model.containment.isAncestorWithin bound other id = model.isAncestor other id

/-- A model whose elements are placed in one another, in whatever way, finds all that is above and
below an element. -/
theorem walksWhole {model : Model} (h : model.PlacesElements) (id : Ident) :
    WalksWhole model id := by
  have hcount : (model.elements.map Element.id).length = model.elements.length :=
    List.length_map _
  refine ⟨?_, ?_, ?_, fun _ => h.mem_ancestors_iff, ?_, fun _ => h.mem_descendants_iff,
    fun _ => h.isAncestor_iff, h.isAncestor_iff.trans leadsTo_self_iff, ?_⟩
  · rw [h.ancestors_eq]
    exact fun k => Containment.getElem?_ancestors
  · rw [h.ancestors_eq]
    exact model.containment.nodup_cons_ancestors id
  · rw [h.ancestors_eq]
    exact fun holder => Containment.mem_cons_ancestors_of_walk
  · rw [h.descendants_eq]
    exact model.containment.nodup_descendants id
  · intro bound hbound
    have henough := hcount.trans_le hbound
    rw [h.ancestors_eq, h.descendants_eq]
    refine ⟨Containment.ancestorsWithin_eq h.placesAmong henough id,
      Containment.descendantsWithin_eq h.placesAmong henough id, fun other => ?_⟩
    rw [Bool.eq_iff_iff, h.isAncestor_iff]
    exact Containment.isAncestorWithin_iff h.placesAmong henough

/-- Four elements, one of them placed in a circle of two others and one of them nowhere. No sources
are built into such a model. -/
def whirlModel : Model :=
  { (∅ : Model) with
    elements := ["tail", "left", "right", "apart"].map fun name =>
      { id := ⟨name⟩, kind := .modeled .container }
    containment := (∅ : Containment).putAll
      [⟨⟨"tail"⟩, ⟨"left"⟩⟩, ⟨⟨"left"⟩, ⟨"right"⟩⟩, ⟨⟨"right"⟩, ⟨"left"⟩⟩,
        ⟨⟨"tail"⟩, ⟨"apart"⟩⟩] }

/-- From the tail both members of the circle are found, and below one member the other and the
tail. -/
theorem walksWhole_whirlModel :
    whirlModel.PlacesElements ∧
      whirlModel.ancestors ⟨"tail"⟩ = [⟨"left"⟩, ⟨"right"⟩] ∧
      whirlModel.descendants ⟨"left"⟩ = [⟨"tail"⟩, ⟨"right"⟩] ∧
      whirlModel.isAncestor ⟨"left"⟩ ⟨"left"⟩ = true ∧
      WalksWhole whirlModel ⟨"tail"⟩ := by
  have hplaces : whirlModel.PlacesElements := ⟨_, rfl, by decide +kernel⟩
  exact ⟨hplaces, by decide +kernel, by decide +kernel, by decide +kernel,
    walksWhole hplaces ⟨"tail"⟩⟩

end Viewpoint
