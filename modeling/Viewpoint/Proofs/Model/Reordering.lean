import Viewpoint.Proofs.Model.Keeping
import Viewpoint.Proofs.Model.SameFacts
import Viewpoint.Proofs.Model.Warnings

/-!
# The order of declarations

Where no element is placed in two different ones, it does not matter which placement comes first.
Then declarations in another order, also spread over other sources, make a model of the same items:
names are looked up among all declarations, so the same references resolve and the same placements
are made. Only the order in which results are listed follows the declarations.

* `PlacedOnce` says that no element is placed in two different ones.
* `SameUpToOrder` says what two models have in common that are made of the same declarations.
* `reordered_build` says that building both has the same outcome.
-/

namespace Viewpoint

/-- No element is placed in two different ones. -/
def PlacedOnce (items : List Item) : Prop :=
  ∀ p ∈ placementsOf items, ∀ q ∈ placementsOf items, p.child = q.child → p.parent = q.parent

instance (items : List Item) : Decidable (PlacedOnce items) :=
  inferInstanceAs (Decidable (∀ p ∈ placementsOf items, ∀ q ∈ placementsOf items,
    p.child = q.child → p.parent = q.parent))

/-- Two models differ only in the order in which they list things. -/
structure SameUpToOrder (model model' : Model) : Prop where
  /-- The elements are the same, each with the same record. -/
  elements_perm : model'.elements.Perm model.elements
  /-- So are the resolved relations. -/
  relations_perm : model'.relations.Perm model.relations
  /-- So are the relations that are kept aside. -/
  unresolved_perm : model'.unresolved.Perm model.unresolved
  /-- Under each name there is the same element. -/
  element?_eq : ∀ id, model'.element? id = model.element? id
  /-- Under each name there is the same resolved relation. -/
  relation?_eq : ∀ id, model'.relation? id = model.relation? id
  /-- Each element lies in the same one. -/
  parent?_eq : ∀ id, model'.parent? id = model.parent? id
  /-- The same items meet criteria. -/
  satisfies_eq : ∀ criteria item, model'.satisfies criteria item = model.satisfies criteria item
  /-- The same names are found by criteria. -/
  mem_matching_iff : ∀ settings criteria id,
    id ∈ (model'.matching settings criteria).value.toList ↔
      id ∈ (model.matching settings criteria).value.toList
  /-- The same names are selected by criteria, with any include flags. -/
  mem_select_iff : ∀ settings criteria flags id,
    id ∈ (model'.select settings criteria flags).value.ids ↔
      id ∈ (model.select settings criteria flags).value.ids
  /-- Sets with the same members are widened to sets with the same members. -/
  mem_expand_iff : ∀ set set' : IdentSet, (∀ id, id ∈ set'.toList ↔ id ∈ set.toList) →
    ∀ flags id, id ∈ (model'.expand set' flags).toList ↔ id ∈ (model.expand set flags).toList

variable {items items' : List Item}

/-- An element that is placed in no two lies where any of its placements says. -/
theorem PlacedOnce.parent?_eq_some_iff (h : PlacedOnce items) {child parent : Ident} :
    (Model.assemble items).parent? child = some parent ↔ ⟨child, parent⟩ ∈ placementsOf items := by
  rw [parent?_assemble, Option.map_eq_some_iff]
  constructor
  · rintro ⟨placement, hfind, rfl⟩
    have hchild : placement.child = child := by simpa using List.find?_some hfind
    exact hchild ▸ List.mem_of_find?_eq_some hfind
  · intro hmem
    -- the first placement of the element is the one that counts, and it says the same as this one
    obtain ⟨first, hfirst, hfound, hchild⟩ := exists_find?_of_mem Placement.child hmem rfl
    exact ⟨first, hfirst, h first hfound _ hmem hchild⟩

section Perm

variable (hperm : items'.Perm items)

include hperm

/-- The names of the elements do not depend on the order. -/
theorem isElementOf_perm : isElementOf items' = isElementOf items := by
  funext id
  exact (hperm.filterMap Item.element?).any_eq

/-- The placements do not depend on the order, but for their own one. -/
theorem placementsOf_perm : (placementsOf items').Perm (placementsOf items) := by
  rw [placementsOf, placementsOf, isElementOf_perm hperm]
  exact ((hperm.filterMap _).filterMap _).append ((hperm.filterMap _).filterMap _)

/-- Neither does it depend on the order whether an element is placed in two. -/
theorem PlacedOnce.perm (h : PlacedOnce items) : PlacedOnce items' := by
  have hmem : ∀ p, p ∈ placementsOf items' ↔ p ∈ placementsOf items :=
    fun _ => (placementsOf_perm hperm).mem_iff
  intro p hp q hq
  exact h p ((hmem p).1 hp) q ((hmem q).1 hq)

/-- Where no element is placed in two, holders do not depend on the order. -/
theorem parent?_perm (h : PlacedOnce items) (id : Ident) :
    (Model.assemble items').parent? id = (Model.assemble items).parent? id := by
  ext parent
  rw [(h.perm hperm).parent?_eq_some_iff, h.parent?_eq_some_iff,
    (placementsOf_perm hperm).mem_iff]

theorem elements_perm :
    (Model.assemble items').elements.Perm (Model.assemble items).elements := by
  rw [Model.elements_assemble, Model.elements_assemble, isElementOf_perm hperm]
  exact (hperm.filterMap _).map _

theorem relations_perm :
    (Model.assemble items').relations.Perm (Model.assemble items).relations := by
  rw [Model.relations_assemble, Model.relations_assemble, isElementOf_perm hperm]
  exact (hperm.filterMap _).filter _

theorem unresolved_perm :
    (Model.assemble items').unresolved.Perm (Model.assemble items).unresolved := by
  rw [Model.unresolved_assemble, Model.unresolved_assemble, isElementOf_perm hperm]
  exact (hperm.filterMap _).filter _

theorem mem_relationsFrom_perm (id : Ident) (r : Relation) :
    r ∈ (Model.assemble items').relationsFrom id ↔
      r ∈ (Model.assemble items).relationsFrom id := by
  rw [Model.relationsFrom_assemble, Model.relationsFrom_assemble]
  exact ((relations_perm hperm).filter _).mem_iff

theorem mem_relationsTo_perm (id : Ident) (r : Relation) :
    r ∈ (Model.assemble items').relationsTo id ↔ r ∈ (Model.assemble items).relationsTo id := by
  rw [Model.relationsTo_assemble, Model.relationsTo_assemble]
  exact ((relations_perm hperm).filter _).mem_iff

end Perm

/-- Elements and resolved relations of an assembled model have distinct names among themselves. -/
theorem nodup_ids_assemble (hnodup : (items.map Item.id).Nodup) :
    ((Model.assemble items).elements.map Element.id).Nodup ∧
      ((Model.assemble items).relations.map Relation.id).Nodup := by
  have hnames := (names_assemble_perm items).nodup_iff.2 hnodup
  rw [List.map_append] at hnames
  obtain ⟨helements, hrelations, -⟩ := List.nodup_append.1 hnames
  exact ⟨helements, (List.nodup_append.1 hrelations).1⟩

/-- Items with distinct names that place no element in two make the same model in any order. -/
theorem sameUpToOrder_assemble (hperm : items'.Perm items) (hnodup : (items.map Item.id).Nodup)
    (honce : PlacedOnce items) :
    SameUpToOrder (Model.assemble items) (Model.assemble items') := by
  have hnodup' : (items'.map Item.id).Nodup := (hperm.map Item.id).nodup_iff.2 hnodup
  obtain ⟨helements, hrelations⟩ := nodup_ids_assemble hnodup
  obtain ⟨helements', hrelations'⟩ := nodup_ids_assemble hnodup'
  -- distinct names are found in lists with the same members whatever their order
  have helement? : ∀ id,
      (Model.assemble items').element? id = (Model.assemble items).element? id :=
    find?_eq_of_mem_iff helements' helements fun _ => (elements_perm hperm).mem_iff
  have hrelation? : ∀ id,
      (Model.assemble items').relation? id = (Model.assemble items).relation? id :=
    find?_eq_of_mem_iff hrelations' hrelations fun _ => (relations_perm hperm).mem_iff
  have hfacts : SameFacts (Model.assemble items) (Model.assemble items') :=
    { mem_elements_iff := fun _ => (elements_perm hperm).mem_iff
      length_elements_eq := (elements_perm hperm).length_eq
      mem_relations_iff := fun _ => (relations_perm hperm).mem_iff
      item?_eq := fun id => by rw [Model.item?, Model.item?, helement?, hrelation?]
      parent?_eq := parent?_perm hperm honce
      mem_relationsFrom_iff := mem_relationsFrom_perm hperm
      mem_relationsTo_iff := mem_relationsTo_perm hperm }
  exact
    { elements_perm := elements_perm hperm
      relations_perm := relations_perm hperm
      unresolved_perm := unresolved_perm hperm
      element?_eq := helement?
      relation?_eq := hrelation?
      parent?_eq := hfacts.parent?_eq
      satisfies_eq := hfacts.satisfies_eq
      mem_matching_iff := hfacts.mem_matching_iff
      mem_select_iff := hfacts.mem_ids_select_iff
      mem_expand_iff := fun _ _ hset => hfacts.mem_expand_iff hset }

/-- Sources that declare the same items in another order, with distinct names and no element placed
in two, are both refused for a circle, or both make a model, and then the same one up to order. -/
theorem reordered_build {sources sources' : List Source}
    (hperm : (declaredItems sources').Perm (declaredItems sources))
    (hnodup : ((declaredItems sources).map Item.id).Nodup)
    (honce : PlacedOnce (declaredItems sources)) :
    (∃ path path', (Model.build sources).value = .error (.containmentCycle path) ∧
      (Model.build sources').value = .error (.containmentCycle path')) ∨
    ∃ built built', (Model.build sources).value = .ok built ∧
      (Model.build sources').value = .ok built' ∧ SameUpToOrder built.model built'.model := by
  have hnodup' : ((declaredItems sources').map Item.id).Nodup :=
    (hperm.map Item.id).nodup_iff.2 hnodup
  have hparent : (Model.assemble (declaredItems sources')).parent? =
      (Model.assemble (declaredItems sources)).parent? :=
    funext (parent?_perm hperm honce)
  -- the holders are the same, so an element lies inside itself in both models or in neither
  by_cases hback : ∃ id, LeadsTo (Model.assemble (declaredItems sources)).parent? id id
  · obtain ⟨path, hpath⟩ := build_of_leadsTo hnodup hback
    obtain ⟨path', hpath'⟩ := build_of_leadsTo hnodup' (hparent.symm ▸ hback)
    exact Or.inl ⟨path, path', hpath, hpath'⟩
  · have hacyclic := not_exists.1 hback
    have hbuilt := build_eq_ok_iff.2 ⟨hnodup, hacyclic, rfl⟩
    have hbuilt' := build_eq_ok_iff.2 ⟨hnodup', hparent.symm ▸ hacyclic, rfl⟩
    exact Or.inr ⟨_, _, hbuilt, hbuilt', sameUpToOrder_assemble hperm hnodup honce⟩

/-- A pier with a boat and a crane on it, and a relation that leads nowhere. -/
def pierSources : List Source :=
  [{ name := "pier"
     decls :=
      [.element (.node { id := "pier", kind := .modeled .system }
        [.node { id := "boat", kind := .modeled .container } []]),
        .element (.node { id := "crane", kind := .modeled .container } []),
        .relation { id := "crane-on-pier", kind := .modeled .containedIn, source := "crane",
                    target := "pier" },
        .relation { id := "crane-to-boat", kind := .modeled .uses, source := "crane",
                    target := "boat" },
        .relation { id := "boat-to-ghost", kind := .modeled .uses, source := "boat",
                    target := "ghost" }] }]

/-- The same declarations backwards and in two sources, with the boat beside the pier. -/
def pierSourcesBackwards : List Source :=
  [{ name := "relations"
     decls :=
      [.relation { id := "boat-to-ghost", kind := .modeled .uses, source := "boat",
                   target := "ghost" },
        .relation { id := "crane-to-boat", kind := .modeled .uses, source := "crane",
                    target := "boat" },
        .relation { id := "crane-on-pier", kind := .modeled .containedIn, source := "crane",
                    target := "pier" }] },
    { name := "elements"
      decls :=
      [.element (.node { id := "crane", kind := .modeled .container } []),
        .element (.node { id := "boat", kind := .modeled .container, owner := some "pier" } []),
        .element (.node { id := "pier", kind := .modeled .system } [])] }]

/-- Both make the same pier. -/
theorem sameUpToOrder_pierSources :
    ∃ built built', (Model.build pierSources).value = .ok built ∧
      (Model.build pierSourcesBackwards).value = .ok built' ∧
      built.model.children ⟨"pier"⟩ = [⟨"boat"⟩, ⟨"crane"⟩] ∧
      SameUpToOrder built.model built'.model := by
  obtain ⟨built, hbuilt, hchildren⟩ : ∃ built, (Model.build pierSources).value = .ok built ∧
      built.model.children ⟨"pier"⟩ = [⟨"boat"⟩, ⟨"crane"⟩] :=
    exists_built_of_map (by decide +kernel)
  have hperm : (declaredItems pierSourcesBackwards).Perm (declaredItems pierSources) := by
    decide +kernel
  have hnodup : ((declaredItems pierSources).map Item.id).Nodup := by decide +kernel
  have honce : PlacedOnce (declaredItems pierSources) := by decide +kernel
  rcases reordered_build hperm hnodup honce with
    ⟨path, path', herror, -⟩ | ⟨made, made', hmade, hmade', hsame⟩
  · rw [hbuilt] at herror
    cases herror
  · obtain rfl : built = made := Except.ok.inj (hbuilt.symm.trans hmade)
    exact ⟨built, made', hbuilt, hmade', hchildren, hsame⟩

end Viewpoint
