import Viewpoint.Proofs.Exchange.Readable
import Viewpoint.Proofs.Exchange.Records
import Viewpoint.Proofs.Model.Keeping
import Viewpoint.Proofs.Model.SameFacts
import Viewpoint.Proofs.Model.Warnings

/-!
# Building a model again

The items of a model can be written as the declarations of one source: first the elements, then the
resolved relations and at last those that are kept aside. This source is read and built to the same
model, although elements are no longer enclosed in one another and no relation stands between
elements. For owners and ends of relations are looked up among all declarations, and the placements
of a model are made in the order of the dump anyway. Only the owners that were not declared are
gone, and so are the warnings about them.

* `Model.dump` are the items to write and `dumpJson` is the written source.
* `Source.decoder_dumpJson` says how the written source is read.
* `SameModel` says that a model has been built again, and `sameModel_of_build` that every model that
  is built from sources that were read can be built again.
-/

namespace Viewpoint

/-- All that a model is made of: its items and then the relations that are kept aside. -/
def Model.dump (model : Model) : List Item :=
  model.items ++ model.unresolved.map .relation

/-- A source of items, as it is written. -/
def dumpJson (name : String) (items : List Item) : Json :=
  .obj [("name", .str name), ("decls", .arr (items.map Item.declarationJson))]

/-- The warning is about an owner that is not declared. -/
def BuildWarning.isUnresolvedOwner : BuildWarning → Bool
  | unresolved _ .owner _ => true
  | _ => false

/-- A model has been built again. Its warnings are the same, in some order, but for those about
owners that are not declared. -/
structure SameModel (built rebuilt : Built) : Prop where
  /-- The elements are the same, in the same order. -/
  elements_eq : rebuilt.model.elements = built.model.elements
  /-- So are the resolved relations. -/
  relations_eq : rebuilt.model.relations = built.model.relations
  /-- So are the relations that are kept aside. -/
  unresolved_eq : rebuilt.model.unresolved = built.model.unresolved
  /-- Each element lies in the same one. -/
  parent?_eq : ∀ id, rebuilt.model.parent? id = built.model.parent? id
  /-- Each element holds the same ones, in the same order. -/
  children_eq : ∀ id, rebuilt.model.children id = built.model.children id
  /-- The same relations start at each element, in the same order. -/
  relationsFrom_eq : ∀ id, rebuilt.model.relationsFrom id = built.model.relationsFrom id
  /-- The same relations end at each element, in the same order. -/
  relationsTo_eq : ∀ id, rebuilt.model.relationsTo id = built.model.relationsTo id
  /-- All warnings are made again but for those about owners that are not declared. -/
  warnings_perm : rebuilt.warnings.Perm (built.warnings.filter fun w => !w.isUnresolvedOwner)

section Reading

variable {items : List Item}

/-- The declaration of a readable item is read as the declaration of this item alone. -/
theorem Item.Readable.decoder_declarationJson {item : Item} (h : item.Readable) (levels : Nat) :
    Decl.decoder (levels + 3) item.declarationJson = some item.decl := by
  cases item with
  | element e =>
    show (ElementTree.decoder (levels + 2) e.json).map Decl.element = _
    rw [ElementTree.decoder_json h, Option.map_some]
    rfl
  | relation r =>
    show (RawRelation.decoder (levels + 2) r.json).map Decl.relation = _
    rw [Relation.decoder_json h, Option.map_some]
    rfl

/-- A written source of readable items is read as the source of these items. -/
theorem Source.decoder_dumpJson (h : ∀ item ∈ items, item.Readable) (name : String)
    (levels : Nat) :
    Source.decoder (levels + 5) (dumpJson name items) = some ⟨name, items.map Item.decl⟩ := by
  have hdecls : Decl.decoder.list (levels + 4) (.arr (items.map Item.declarationJson)) =
      some (items.map Item.decl) := by
    show (items.map Item.declarationJson).mapM (Decl.decoder (levels + 3)) = _
    rw [List.mapM_map]
    exact mapM_eq_some_map fun item hitem => (h item hitem).decoder_declarationJson levels
  -- both fields are found by their names; the name itself is read as it stands
  show (Decl.decoder.list (levels + 4) (.arr (items.map Item.declarationJson))).bind _ = _
  rw [hdecls, Option.bind_some]
  rfl

end Reading

section Stored

variable (known : Ident → Bool) (e : Element)

/-- An element that is stored drops no owner any more. -/
theorem Element.resolveOwner_resolveOwner :
    (e.resolveOwner known).resolveOwner known = e.resolveOwner known := by
  simp [resolveOwner, Option.filter_filter]

theorem Element.placement?_resolveOwner :
    (e.resolveOwner known).placement? known = e.placement? known := by
  simp [resolveOwner, placement?, Option.filter_filter]

theorem Element.ownerWarnings_resolveOwner : (e.resolveOwner known).ownerWarnings known = [] := by
  simp [resolveOwner, ownerWarnings, Option.filter_filter]

end Stored

section Dump

variable (items : List Item)

theorem filterMap_element?_dump (model : Model) :
    model.dump.filterMap Item.element? = model.elements := by
  simp [Model.dump, Model.items, List.filterMap_append, Function.comp_def, Item.element?]

/-- The relations of a dump are the resolved ones and then those that are kept aside. -/
theorem filterMap_relation?_dump (model : Model) :
    model.dump.filterMap Item.relation? = model.relations ++ model.unresolved := by
  simp [Model.dump, Model.items, List.filterMap_append, Function.comp_def, Item.relation?]

/-- The names of a dump are the declared ones, in some order. -/
theorem ids_dump_perm :
    ((Model.assemble items).dump.map Item.id).Perm (items.map Item.id) := by
  have hids : (Model.assemble items).dump.map Item.id =
      (Model.assemble items).elements.map Element.id ++
        ((Model.assemble items).relations ++ (Model.assemble items).unresolved).map
          Relation.id := by
    simp [Model.dump, Model.items, Function.comp_def, Item.id]
  rw [hids]
  exact names_assemble_perm items

theorem isElementOf_dump : isElementOf (Model.assemble items).dump = isElementOf items := by
  refine isElementOf_congr ?_
  rw [filterMap_element?_dump, Model.elements_assemble, List.map_map]
  rfl

/-- The relations of a dump are the declared ones, those that are resolved first. -/
theorem relations_dump_perm :
    ((Model.assemble items).dump.filterMap Item.relation?).Perm
      (items.filterMap Item.relation?) := by
  rw [filterMap_relation?_dump, Model.relations_assemble, Model.unresolved_assemble]
  exact List.filter_append_perm _ _

theorem elements_dump :
    (Model.assemble (Model.assemble items).dump).elements = (Model.assemble items).elements := by
  rw [Model.elements_assemble, isElementOf_dump, filterMap_element?_dump, Model.elements_assemble,
    List.map_map]
  refine List.map_congr_left fun e _ => ?_
  exact e.resolveOwner_resolveOwner _

theorem relations_dump :
    (Model.assemble (Model.assemble items).dump).relations = (Model.assemble items).relations := by
  rw [Model.relations_assemble, isElementOf_dump, filterMap_relation?_dump,
    Model.relations_assemble, Model.unresolved_assemble, List.filter_append, List.filter_filter,
    List.filter_filter]
  simp

theorem unresolved_dump :
    (Model.assemble (Model.assemble items).dump).unresolved =
      (Model.assemble items).unresolved := by
  rw [Model.unresolved_assemble, isElementOf_dump, filterMap_relation?_dump,
    Model.relations_assemble, Model.unresolved_assemble, List.filter_append, List.filter_filter,
    List.filter_filter]
  simp

/-- The same placements are made in the same order: those of the owners come first in both, and a
relation that is not resolved makes none. -/
theorem placementsOf_dump : placementsOf (Model.assemble items).dump = placementsOf items := by
  have helements : (Model.assemble items).elements.filterMap
      (Element.placement? (isElementOf items)) =
        (items.filterMap Item.element?).filterMap (Element.placement? (isElementOf items)) := by
    rw [Model.elements_assemble, List.filterMap_map]
    congr 1
    funext e
    exact e.placement?_resolveOwner _
  -- a relation that is not resolved makes no placement, so it may be left out or stand last
  have hresolved : ∀ relations : List Relation,
      (relations.filter (Relation.isResolved (isElementOf items))).filterMap
        (Relation.placement? (isElementOf items)) =
          relations.filterMap (Relation.placement? (isElementOf items)) := by
    intro relations
    rw [List.filterMap_filter]
    congr 1
    funext r
    cases h : r.isResolved (isElementOf items) <;> simp [Relation.placement?, h]
  have hunresolved : (Model.assemble items).unresolved.filterMap
      (Relation.placement? (isElementOf items)) = [] := by
    rw [List.filterMap_eq_nil_iff]
    intro r hr
    have hdangling : r.isResolved (isElementOf items) = false := by
      simpa [Model.unresolved_assemble] using (List.mem_filter.1 hr).2
    simp [Relation.placement?, hdangling]
  rw [placementsOf, placementsOf, isElementOf_dump, filterMap_element?_dump,
    filterMap_relation?_dump, List.filterMap_append, helements, hunresolved, List.append_nil,
    Model.relations_assemble, hresolved]

/-- A dump makes a model of the same structure. -/
theorem sameStructure_dump :
    SameStructure (Model.assemble items) (Model.assemble (Model.assemble items).dump) :=
  sameStructure_assemble (elements_dump items) (relations_dump items) (placementsOf_dump items)

/-- Each element lies in the same one. -/
theorem parent?_dump :
    (Model.assemble (Model.assemble items).dump).parent? = (Model.assemble items).parent? :=
  parent?_assemble_congr (placementsOf_dump items)

/-- The items of a dump are readable if the declared ones are. -/
theorem readable_dump (h : ∀ item ∈ items, item.Readable) :
    ∀ item ∈ (Model.assemble items).dump, item.Readable := by
  intro item hitem
  rcases List.mem_append.1 hitem with hitem | hitem
  · rcases List.mem_append.1 hitem with hitem | hitem
    · -- the kind of an element is stored as it is declared
      obtain ⟨e, he, rfl⟩ := List.mem_map.1 hitem
      obtain ⟨declared, hdeclared, rfl⟩ := List.mem_map.1 he
      exact h (.element declared) (mem_filterMap_element?.1 hdeclared)
    · obtain ⟨r, hr, rfl⟩ := List.mem_map.1 hitem
      exact h (.relation r) (mem_relations_assemble.1 hr).1
  · obtain ⟨r, hr, rfl⟩ := List.mem_map.1 hitem
    exact h (.relation r) (mem_unresolved_assemble.1 hr).1

end Dump

/-- No warning about a relation is about an owner. -/
theorem isUnresolvedOwner_of_mem_warnings {known : Ident → Bool} {holder : Ident → Option Ident}
    {r : Relation} {warning : BuildWarning} (h : warning ∈ r.warnings known holder) :
    warning.isUnresolvedOwner = false := by
  rw [Relation.warnings, List.mem_append] at h
  rcases h with h | h
  · rcases exists_of_mem_endWarnings h with rfl | rfl
    · rfl
    · rfl
  · obtain ⟨placement, -, h⟩ := List.mem_flatMap.1 h
    obtain ⟨kept, -, rfl⟩ := List.mem_map.1 h
    rfl

/-- Without those about owners the warnings are those about the relations. -/
theorem filter_warningsOf (items : List Item) :
    (warningsOf items).filter (fun w => !w.isUnresolvedOwner) =
      (items.filterMap Item.relation?).flatMap
        (Relation.warnings (isElementOf items) (Model.assemble items).parent?) := by
  have howners : ((items.filterMap Item.element?).flatMap
      (Element.ownerWarnings (isElementOf items))).filter (fun w => !w.isUnresolvedOwner) = [] := by
    rw [List.filter_eq_nil_iff]
    intro warning hwarning
    obtain ⟨e, -, hwarning⟩ := List.mem_flatMap.1 hwarning
    obtain ⟨owner, -, rfl⟩ := List.mem_map.1 hwarning
    simp [BuildWarning.isUnresolvedOwner]
  have hrelations : ((items.filterMap Item.relation?).flatMap
      (Relation.warnings (isElementOf items) (Model.assemble items).parent?)).filter
        (fun w => !w.isUnresolvedOwner) = (items.filterMap Item.relation?).flatMap
          (Relation.warnings (isElementOf items) (Model.assemble items).parent?) := by
    rw [List.filter_eq_self]
    intro warning hwarning
    obtain ⟨r, -, hwarning⟩ := List.mem_flatMap.1 hwarning
    rw [isUnresolvedOwner_of_mem_warnings hwarning]
    rfl
  rw [warningsOf, List.filter_append, howners, hrelations, List.nil_append]

/-- The warnings about a dump are those about the relations, those that are resolved first. -/
theorem warningsOf_dump_perm (items : List Item) :
    (warningsOf (Model.assemble items).dump).Perm
      ((warningsOf items).filter fun w => !w.isUnresolvedOwner) := by
  have howners : (Model.assemble items).elements.flatMap
      (Element.ownerWarnings (isElementOf items)) = [] := by
    rw [List.flatMap_eq_nil_iff]
    intro e he
    obtain ⟨declared, -, rfl⟩ := List.mem_map.1 he
    exact declared.ownerWarnings_resolveOwner _
  rw [filter_warningsOf, warningsOf, isElementOf_dump, filterMap_element?_dump, howners,
    List.nil_append, parent?_dump]
  exact (relations_dump_perm items).flatMap_right _

/-- A model that is built from sources that were read can be written as one source, read again
wherever five containers may still be opened, and built again. -/
theorem sameModel_of_build {sources : List Source} {built : Built}
    (hread : ∀ source ∈ sources, ∃ levels json, Source.decoder levels json = some source)
    (hbuilt : (Model.build sources).value = .ok built) (name : String) :
    ∃ source rebuilt,
      (∀ levels, Source.decoder (levels + 5) (dumpJson name built.model.dump) = some source) ∧
        (Model.build [source]).value = .ok rebuilt ∧ SameModel built rebuilt := by
  obtain ⟨hnodup, hacyclic, rfl⟩ := build_eq_ok_iff.1 hbuilt
  -- what was read once can be written and read again
  have hreadable : ∀ item ∈ declaredItems sources, item.Readable := by
    intro item hitem
    obtain ⟨source, hsource, hitem⟩ := List.mem_flatMap.1 hitem
    obtain ⟨levels, json, hjson⟩ := hread source hsource
    exact Source.readable_of_decoder hjson item hitem
  have hdump := Source.decoder_dumpJson (readable_dump _ hreadable) name
  have hitems := declaredItems_map_decl name (Model.assemble (declaredItems sources)).dump
  -- its names are the declared ones and its holders are those of the model
  have hrebuilt := build_eq_ok_iff.2
    ⟨hitems.symm ▸ (ids_dump_perm (declaredItems sources)).nodup_iff.2 hnodup,
      hitems.symm ▸ (parent?_dump (declaredItems sources)).symm ▸ hacyclic, rfl⟩
  refine ⟨_, _, hdump, hrebuilt, ?_⟩
  rw [hitems]
  have hstructure := sameStructure_dump (declaredItems sources)
  exact
    { elements_eq := hstructure.elements_eq
      relations_eq := hstructure.relations_eq
      unresolved_eq := unresolved_dump _
      parent?_eq := hstructure.parent?_eq
      children_eq := hstructure.children_eq
      relationsFrom_eq := hstructure.relationsFrom_eq
      relationsTo_eq := hstructure.relationsTo_eq
      warnings_perm := warningsOf_dump_perm _ }

/-- A written kiosk: a till within it whose own owner is overridden, a clerk whose owner is not
declared, and relations that place the clerk, contradict the kiosk and lead nowhere. -/
def kioskJson : Json :=
  .obj
    [("decls", .arr
      [.obj [("element", .obj
        [("id", .str "kiosk"), ("el", .str "system"), ("ct", .arr
          [.obj [("id", .str "till"), ("kind", .str "container"), ("owner", .str "bank"),
            ("tags", Json.strings ["money", "fast", "money"])]])])],
        .obj [("relation", .obj
          [("id", .str "till-to-bank"), ("kind", .str "uses"), ("from", .str "till"),
            ("to", .str "bank"), ("direction", .str "up")])],
        .obj [("element", .obj
          [("id", .str "clerk"), ("kind", .str "person"), ("owner", .str "ghost"),
            ("maturity", .str "proposed"), ("external?", .bool true)])],
        .obj [("relation", .obj
          [("id", .str "clerk-in-kiosk"), ("kind", .str "contained-in"), ("from", .str "clerk"),
            ("to", .str "kiosk")])],
        .obj [("relation", .obj
          [("id", .str "till-in-clerk"), ("kind", .str "contained-in"), ("from", .str "till"),
            ("to", .str "clerk")])]])]

/-- The kiosk as it is read. -/
def kioskSources : List Source :=
  [kioskJson].filterMap (Json.decode? Source.decoder)

/-- The kiosk is built again. Of its warnings that about the ghost is not made any more, and the
other two change places. -/
theorem sameModel_kioskSources :
    ∃ built source rebuilt, (Model.build kioskSources).value = .ok built ∧
      built.warnings =
        [.unresolved ⟨"clerk"⟩ .owner ⟨"ghost"⟩, .unresolved ⟨"till-to-bank"⟩ .target ⟨"bank"⟩,
          .conflictingParent ⟨"till"⟩ ⟨"kiosk"⟩ ⟨"clerk"⟩] ∧
      (∀ levels, Source.decoder (levels + 5) (dumpJson "again" built.model.dump) = some source) ∧
      (Model.build [source]).value = .ok rebuilt ∧ SameModel built rebuilt := by
  obtain ⟨built, hbuilt, hwarnings⟩ : ∃ built, (Model.build kioskSources).value = .ok built ∧
      built.warnings =
        [.unresolved ⟨"clerk"⟩ .owner ⟨"ghost"⟩, .unresolved ⟨"till-to-bank"⟩ .target ⟨"bank"⟩,
          .conflictingParent ⟨"till"⟩ ⟨"kiosk"⟩ ⟨"clerk"⟩] :=
    exists_built_of_map (by decide +kernel)
  have hread : ∀ source ∈ kioskSources,
      ∃ levels json, Source.decoder levels json = some source := by
    intro source hsource
    obtain ⟨json, -, hjson⟩ := List.mem_filterMap.1 hsource
    exact ⟨nestingLimit, json, hjson⟩
  obtain ⟨source, rebuilt, hsource, hrebuilt, hsame⟩ := sameModel_of_build hread hbuilt "again"
  exact ⟨built, source, rebuilt, hbuilt, hwarnings, hsource, hrebuilt, hsame⟩

end Viewpoint
