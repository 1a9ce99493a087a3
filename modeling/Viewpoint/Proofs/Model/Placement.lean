import Viewpoint.Model.Build
import Viewpoint.Proofs.Containment.Placing

/-!
# The placements of a model

Owners place elements and so do containment relations: all owners come first and the relations
after them. What resolving references makes of the containment is the run of these placements.

* `placementsOf` lists the placements that declared items ask for.
* `Model.assemble` is the model of items, whether or not its containment runs in a circle.
* `ofItems_eq_ok` says that a model that is built is this one and has no circle, and
  `ofItems_eq_error` that one that is refused has a circle.
-/

namespace Viewpoint

/-- The placement of an element in its owner, if the owner is declared. -/
def Element.placement? (known : Ident → Bool) (element : Element) : Option Placement :=
  (element.owner.filter known).map fun owner => ⟨element.id, owner⟩

/-- The placement that a containment relation between declared elements asks for. -/
def Relation.placement? (known : Ident → Bool) (relation : Relation) : Option Placement :=
  if relation.isResolved known && relation.kind.isContainment then
    some ⟨relation.source, relation.target⟩
  else none

/-- The elements among items. -/
@[simp]
theorem mem_filterMap_element? {items : List Item} {e : Element} :
    e ∈ items.filterMap Item.element? ↔ .element e ∈ items := by
  rw [List.mem_filterMap]
  refine ⟨?_, fun h => ⟨_, h, rfl⟩⟩
  rintro ⟨item, hitem, he⟩
  cases item with
  | element e' =>
    cases he
    exact hitem
  | relation r => cases he

/-- The relations among items. -/
@[simp]
theorem mem_filterMap_relation? {items : List Item} {r : Relation} :
    r ∈ items.filterMap Item.relation? ↔ .relation r ∈ items := by
  rw [List.mem_filterMap]
  refine ⟨?_, fun h => ⟨_, h, rfl⟩⟩
  rintro ⟨item, hitem, hr⟩
  cases item with
  | element e => cases hr
  | relation r' =>
    cases hr
    exact hitem

/-- Whether one of the items is an element of this name. -/
def isElementOf (items : List Item) (id : Ident) : Bool :=
  (items.filterMap Item.element?).any (·.id = id)

/-- The elements among items, by their names. -/
theorem isElementOf_iff {items : List Item} {id : Ident} :
    isElementOf items id = true ↔ ∃ e, Item.element e ∈ items ∧ e.id = id := by
  simp only [isElementOf, List.any_eq_true, mem_filterMap_element?, decide_eq_true_eq]

/-- Items whose elements have the same names have elements of the same names. -/
theorem isElementOf_congr {items items' : List Item}
    (h : (items'.filterMap Item.element?).map Element.id =
      (items.filterMap Item.element?).map Element.id) : isElementOf items' = isElementOf items := by
  have hany : ∀ (items : List Item) (id : Ident), isElementOf items id =
      ((items.filterMap Item.element?).map Element.id).any fun name => name = id := by
    intro items id
    rw [List.any_map]
    rfl
  funext id
  rw [hany, hany, h]

/-- The placements that items ask for: those of the owners and then those of the relations. -/
def placementsOf (items : List Item) : List Placement :=
  (items.filterMap Item.element?).filterMap (Element.placement? (isElementOf items)) ++
    (items.filterMap Item.relation?).filterMap (Relation.placement? (isElementOf items))

namespace Resolution

variable {known : Ident → Bool} (resolution : Resolution)

/-- A warning places nothing. -/
@[simp]
theorem containment_warn (warning : BuildWarning) :
    (resolution.warn warning).containment = resolution.containment := rfl

/-- Placing makes the placement, with or without a warning. -/
theorem containment_place (child parent : Ident) :
    (resolution.place child parent).containment = resolution.containment.put ⟨child, parent⟩ := by
  rw [place, Containment.put]
  split <;> next heq => simp [heq]

/-- An element makes the placement that it asks for. -/
theorem containment_addOwner (element : Element) :
    (resolution.addOwner known element).containment =
      resolution.containment.putAll (element.placement? known).toList := by
  rw [addOwner, Element.placement?]
  cases element.owner with
  | none => rfl
  | some owner =>
    by_cases h : known owner
    · simp [h, Option.filter_some, containment_place, Containment.putAll]
    · simp [h, Option.filter_some, Containment.putAll]

/-- A relation makes the placement that it asks for. -/
theorem containment_addRelation (relation : Relation) :
    (resolution.addRelation known relation).containment =
      resolution.containment.putAll (relation.placement? known).toList := by
  rw [addRelation, Relation.placement?, Relation.isResolved]
  cases known relation.source <;> cases known relation.target <;>
    cases relation.kind.isContainment <;> simp [containment_place, Containment.putAll]

/-- A run of steps that each make the placement they are asked for makes all of them in order. -/
theorem containment_foldl {α : Type} {step : Resolution → α → Resolution}
    {placement? : α → Option Placement}
    (hstep : ∀ r a, (step r a).containment = r.containment.putAll (placement? a).toList)
    (list : List α) :
    (list.foldl step resolution).containment =
      resolution.containment.putAll (list.filterMap placement?) := by
  -- by induction on the run, from any state that resolving has come to
  induction list generalizing resolution with
  | nil => rfl
  | cons a rest ih =>
    rw [List.foldl_cons, ih, hstep, ← Containment.putAll_append]
    cases h : placement? a with
    | none => simp [h]
    | some placement => simp [h]

end Resolution

namespace Model

/-- What resolving the references of items finds. -/
def resolve (items : List Item) : Resolution :=
  (items.filterMap Item.relation?).foldl (Resolution.addRelation (isElementOf items))
    ((items.filterMap Item.element?).foldl (Resolution.addOwner (isElementOf items)) {})

/-- Resolving references makes the placements that the items ask for. -/
theorem containment_resolve (items : List Item) :
    (resolve items).containment = (∅ : Containment).putAll (placementsOf items) := by
  rw [resolve, Resolution.containment_foldl _ fun r a => r.containment_addRelation a,
    Resolution.containment_foldl _ fun r a => r.containment_addOwner a,
    ← Containment.putAll_append]
  rfl

/-- The model of items, whether or not its containment runs in a circle. -/
def assemble (items : List Item) : Model where
  elements := (items.filterMap Item.element?).map (Element.resolveOwner (isElementOf items))
  relations := (items.filterMap Item.relation?).filter (Relation.isResolved (isElementOf items))
  unresolved :=
    (items.filterMap Item.relation?).filter fun r => !r.isResolved (isElementOf items)
  declared := items.map Item.id
  containment := (∅ : Containment).putAll (placementsOf items)
  adjacency := Adjacency.ofRelations
    ((items.filterMap Item.relation?).filter (Relation.isResolved (isElementOf items)))

/-- The elements are stored without owners that are not declared. -/
theorem elements_assemble (items : List Item) : (assemble items).elements =
    (items.filterMap Item.element?).map (Element.resolveOwner (isElementOf items)) := rfl

/-- The relations between declared elements are resolved. -/
theorem relations_assemble (items : List Item) : (assemble items).relations =
    (items.filterMap Item.relation?).filter (Relation.isResolved (isElementOf items)) := rfl

/-- The other relations are kept aside. -/
theorem unresolved_assemble (items : List Item) : (assemble items).unresolved =
    (items.filterMap Item.relation?).filter fun r => !r.isResolved (isElementOf items) := rfl

/-- The relations found at an element as outgoing are the resolved ones that start there. -/
theorem relationsFrom_assemble (items : List Item) (id : Ident) :
    (assemble items).relationsFrom id = (assemble items).relations.filter (·.source = id) :=
  Adjacency.outgoing_ofRelations _ id

/-- The relations found at an element as incoming are the resolved ones that end there. -/
theorem relationsTo_assemble (items : List Item) (id : Ident) :
    (assemble items).relationsTo id = (assemble items).relations.filter (·.target = id) :=
  Adjacency.incoming_ofRelations _ id

/-- A model that is built is the one assembled from its items, and no circle is found in it. -/
theorem ofItems_eq_ok {items : List Item} {built : Built} (h : ofItems items = .ok built) :
    built.model = assemble items ∧
      (assemble items).containment.findCycle ((items.filterMap Item.element?).map Element.id) =
        none := by
  have hcontainment : (assemble items).containment = (resolve items).containment :=
    (containment_resolve items).symm
  unfold ofItems at h
  simp only at h
  split at h
  · cases h
  · next hcycle =>
    cases h
    refine ⟨?_, hcontainment ▸ hcycle⟩
    rw [assemble, ← containment_resolve]
    rfl

/-- A model is refused only for a circle that is found in the one assembled from its items. -/
theorem ofItems_eq_error {items : List Item} {error : BuildError}
    (h : ofItems items = .error error) :
    ∃ path, error = .containmentCycle path ∧
      (assemble items).containment.findCycle ((items.filterMap Item.element?).map Element.id) =
        some path := by
  have hcontainment : (assemble items).containment = (resolve items).containment :=
    (containment_resolve items).symm
  unfold ofItems at h
  simp only at h
  split at h
  · next path hcycle =>
    cases h
    exact ⟨path, rfl, hcontainment ▸ hcycle⟩
  · cases h

end Model

end Viewpoint
