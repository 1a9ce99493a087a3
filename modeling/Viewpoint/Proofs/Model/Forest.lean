import Viewpoint.Proofs.Containment.Search
import Viewpoint.Proofs.Model.Names

/-!
# Containment is a forest

The elements of a model that is built form a forest. Only elements are placed and only in elements;
an element lies in at most one place, which is its owner if it has one; and no element lies, at any
depth, inside itself.

* `ContainmentForest` are the properties of the forest.
* `containmentForest_of_build` says that every model that is built has them.
-/

namespace Viewpoint

/-- The containment of a model is a forest over its elements. -/
structure ContainmentForest (model : Model) : Prop where
  /-- Elements lie in elements. -/
  parent_names : ∀ child parent, model.parent? child = some parent →
    NamesElement model child ∧ NamesElement model parent
  /-- Elements hold elements. -/
  children_name : ∀ child parent, child ∈ model.children parent →
    NamesElement model child ∧ NamesElement model parent
  /-- An element is listed once by the element that it lies in, and by no other. -/
  count_children : ∀ child parent,
    (model.children parent).count child = if model.parent? child = some parent then 1 else 0
  /-- Going from holder to holder never returns to where it started. -/
  acyclic : ∀ id, ¬ LeadsTo model.parent? id id
  /-- An element with an owner lies in it. -/
  owner_holds : ∀ e ∈ model.elements, ∀ owner, e.owner = some owner →
    NamesElement model owner ∧ model.parent? e.id = some owner

variable {items : List Item}

/-- Only elements are placed, and only in elements. -/
theorem isElementOf_of_mem_placementsOf {placement : Placement}
    (h : placement ∈ placementsOf items) :
    isElementOf items placement.child = true ∧ isElementOf items placement.parent = true := by
  rcases List.mem_append.1 h with h | h
  · obtain ⟨e, he, hplaced⟩ := List.mem_filterMap.1 h
    obtain ⟨owner, howner, rfl⟩ := Option.map_eq_some_iff.1 hplaced
    exact ⟨isElementOf_iff.2 ⟨e, mem_filterMap_element?.1 he, rfl⟩,
      (Option.filter_eq_some_iff.1 howner).2⟩
  · obtain ⟨r, -, hplaced⟩ := List.mem_filterMap.1 h
    rw [Relation.placement?, Relation.isResolved] at hplaced
    split at hplaced
    · next hcond =>
      cases hplaced
      simp only [Bool.and_eq_true] at hcond
      exact hcond.1
    · cases hplaced

/-- A holder in an assembled model comes from the first placement of the element. -/
theorem parent?_assemble (id : Ident) :
    (Model.assemble items).parent? id =
      ((placementsOf items).find? (·.child = id)).map Placement.parent := by
  rw [Model.parent?, Model.assemble, Containment.parent?_putAll, Containment.parent?_empty,
    Option.none_or]

/-- Items that make the same placements make the same holders. -/
theorem parent?_assemble_congr {items' : List Item} (h : placementsOf items' = placementsOf items) :
    (Model.assemble items').parent? = (Model.assemble items).parent? := by
  funext id
  rw [parent?_assemble, parent?_assemble, h]

/-- Elements lie in elements. -/
theorem isElementOf_of_parent? {child parent : Ident}
    (h : (Model.assemble items).parent? child = some parent) :
    isElementOf items child = true ∧ isElementOf items parent = true := by
  rw [parent?_assemble] at h
  obtain ⟨placement, hfind, rfl⟩ := Option.map_eq_some_iff.1 h
  have hchild : placement.child = child := by simpa using List.find?_some hfind
  exact hchild ▸ isElementOf_of_mem_placementsOf (List.mem_of_find?_eq_some hfind)

/-- An element lies in its owner, as no other placement of it comes first. -/
theorem parent?_of_owner (hnodup : (items.map Item.id).Nodup) {e : Element} {owner : Ident}
    (he : .element e ∈ items) (howner : e.owner.filter (isElementOf items) = some owner) :
    (Model.assemble items).parent? e.id = some owner := by
  have hplaced : e.placement? (isElementOf items) = some ⟨e.id, owner⟩ := by
    rw [Element.placement?, howner, Option.map_some]
  obtain ⟨placement, hfind, hfound, hchild⟩ := exists_find?_of_mem Placement.child
    (List.mem_filterMap.2 ⟨e, mem_filterMap_element?.2 he, hplaced⟩) rfl
  -- the placement that is found first belongs to an element of the same name, so to this one
  obtain ⟨e', he', hplaced'⟩ := List.mem_filterMap.1 hfound
  have hid : e'.id = e.id := by
    obtain ⟨owner', -, rfl⟩ := Option.map_eq_some_iff.1 hplaced'
    exact hchild
  have heq := List.inj_on_of_nodup_map hnodup (mem_filterMap_element?.1 he') he hid
  cases heq
  rw [hplaced] at hplaced'
  cases hplaced'
  rw [parent?_assemble, placementsOf, List.find?_append, hfind]
  rfl

/-- Where no circle is found from any element, going from holder to holder never returns. -/
theorem acyclic_of_findCycle
    (h : (Model.assemble items).containment.findCycle
      ((items.filterMap Item.element?).map Element.id) = none) (id : Ident) :
    ¬ LeadsTo (Model.assemble items).parent? id id := by
  intro hback
  obtain ⟨parent, hparent⟩ := hback.exists_next
  obtain ⟨e, he, rfl⟩ := isElementOf_iff.1 (isElementOf_of_parent? hparent).1
  -- what has a holder is an element, and the walk from every element has an end
  have hends : WalkEnds (Model.assemble items).parent? e.id :=
    Containment.walkEnds_of_findCycle h (List.mem_map_of_mem (mem_filterMap_element?.2 he))
  exact hends.not_leadsTo_self hback

/-- Every model that is built has a containment that is a forest over its elements. -/
theorem containmentForest_of_build {sources : List Source} {built : Built}
    (h : (Model.build sources).value = .ok built) : ContainmentForest built.model := by
  obtain ⟨hitems, hnodup⟩ := build_eq_ok h
  obtain ⟨hmodel, hcycle⟩ := Model.ofItems_eq_ok hitems
  rw [hmodel]
  have hnames : ∀ child parent,
      (Model.assemble (declaredItems sources)).parent? child = some parent →
        NamesElement (Model.assemble (declaredItems sources)) child ∧
          NamesElement (Model.assemble (declaredItems sources)) parent := by
    intro child parent hparent
    obtain ⟨hchild, hholder⟩ := isElementOf_of_parent? hparent
    exact ⟨namesElement_assemble hnodup hchild, namesElement_assemble hnodup hholder⟩
  refine ⟨hnames, ?_, ?_, ?_, ?_⟩
  · intro child parent hmem
    exact hnames child parent (Containment.mem_children_iff.1 hmem)
  · exact fun child parent => Containment.count_children _ child parent
  · exact fun id => acyclic_of_findCycle hcycle id
  · intro e he owner howner
    -- the owner that is left is a declared one
    obtain ⟨written, hwritten, rfl⟩ := List.mem_map.1 he
    have hparent := parent?_of_owner hnodup (mem_filterMap_element?.1 hwritten) howner
    exact ⟨(hnames _ _ hparent).2, hparent⟩

/-- Two sources that place elements in all ways: by enclosing one with another declared owner, by
owners declared later or not at all, and by relations that agree with, contradict or follow another
placement or do not resolve. -/
def shopSources : List Source :=
  [{ name := "shop"
     decls :=
      [.element (.node { id := "shop", kind := .modeled .system, owner := some "acme" }
        [.node { id := "shop/web", kind := .modeled .container, owner := some "acme" } [],
          .node { id := "shop/queue", kind := .custom "queue", tags := ["backend"] } []]),
        .relation { id := "web-in-queue", kind := .modeled .containedIn, source := "shop/web",
                    target := "shop/queue" },
        .relation { id := "db-in-shop", kind := .modeled .containedIn, source := "db",
                    target := "shop" }] },
    { name := "acme"
      decls :=
      [.element (.node { id := "acme", kind := .modeled .system } []),
        .element (.node { id := "db", kind := .modeled .container, owner := some "ghost",
                          tags := ["backend", "storage"] } []),
        .relation { id := "web-to-db", kind := .modeled .uses, source := "shop/web",
                    target := "db", tags := ["backend"] },
        .relation { id := "db-to-relation", kind := .modeled .containedIn, source := "db",
                    target := "web-to-db" }] }]

/-- The forest of the two sources: the contradicting and the unresolved placements are dropped. -/
theorem containmentForest_shopSources :
    ∃ built, (Model.build shopSources).value = .ok built ∧
      built.model.children ⟨"shop"⟩ = [⟨"shop/web"⟩, ⟨"shop/queue"⟩, ⟨"db"⟩] ∧
      ContainmentForest built.model := by
  have hchildren : (Model.build shopSources).value.toOption.map (·.model.children ⟨"shop"⟩) =
      some [⟨"shop/web"⟩, ⟨"shop/queue"⟩, ⟨"db"⟩] := by decide +kernel
  cases h : (Model.build shopSources).value with
  | error e =>
    rw [h] at hchildren
    cases hchildren
  | ok built =>
    rw [h] at hchildren
    exact ⟨built, rfl, Option.some.inj hchildren, containmentForest_of_build h⟩

end Viewpoint
