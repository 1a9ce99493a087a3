import Viewpoint.Proofs.Model.Refusal

/-!
# What building warns about

Building warns of owners and ends that are not declared, and of placements of elements that lie
elsewhere already. As an element never changes its holder, the last kind of warning can be told from
the holders in the finished model: each placement that they contradict is warned about. So all
warnings can be read off the declarations and the model.

* `warningsOf` are the warnings about items, in order, and `warnings_resolve` says that these are
  the warnings that resolving references makes.
* `build_eq_ok_iff` says when building succeeds and with which model and warnings, and
  `build_of_leadsTo` when it fails although names are distinct.
* `WarnsExactly` says which warnings there are, and `warnsExactly_of_build` that a model that is
  built comes with these.
-/

namespace Viewpoint

/-- The warning about the owner of an element, if the owner is not declared. -/
def Element.ownerWarnings (known : Ident → Bool) (element : Element) : List BuildWarning :=
  (element.owner.filter fun owner => !known owner).toList.map (.unresolved element.id .owner)

/-- The warnings about the ends of a relation that are not declared. -/
def Relation.endWarnings (known : Ident → Bool) (relation : Relation) : List BuildWarning :=
  (if known relation.source then [] else [.unresolved relation.id .source relation.source]) ++
    if known relation.target then [] else [.unresolved relation.id .target relation.target]

/-- The warning about a placement of an element that has another holder. -/
def Placement.conflictWarnings (holder : Ident → Option Ident) (placement : Placement) :
    List BuildWarning :=
  ((holder placement.child).filter (· ≠ placement.parent)).toList.map fun kept =>
    .conflictingParent placement.child kept placement.parent

/-- The warnings about a relation: those about its ends, or else about the placement that it asks
for. -/
def Relation.warnings (known : Ident → Bool) (holder : Ident → Option Ident)
    (relation : Relation) : List BuildWarning :=
  relation.endWarnings known ++
    (relation.placement? known).toList.flatMap (Placement.conflictWarnings holder)

/-- The warnings about items: those about the owners and then those about the relations. -/
def warningsOf (items : List Item) : List BuildWarning :=
  (items.filterMap Item.element?).flatMap (Element.ownerWarnings (isElementOf items)) ++
    (items.filterMap Item.relation?).flatMap
      (Relation.warnings (isElementOf items) (Model.assemble items).parent?)

theorem Element.mem_ownerWarnings_iff {known : Ident → Bool} {e : Element}
    {warning : BuildWarning} : warning ∈ e.ownerWarnings known ↔
      ∃ owner, e.owner = some owner ∧ known owner = false ∧
        warning = .unresolved e.id .owner owner := by
  simp only [ownerWarnings, List.mem_map, Option.mem_toList, Option.filter_eq_some_iff,
    Bool.not_eq_true', and_assoc, @eq_comm _ warning]

theorem Relation.mem_endWarnings_iff {known : Ident → Bool} {r : Relation}
    {warning : BuildWarning} : warning ∈ r.endWarnings known ↔
      (known r.source = false ∧ warning = .unresolved r.id .source r.source) ∨
        (known r.target = false ∧ warning = .unresolved r.id .target r.target) := by
  rw [endWarnings, List.mem_append]
  cases known r.source <;> cases known r.target <;> simp

theorem Relation.placement?_eq_some_iff {known : Ident → Bool} {r : Relation}
    {placement : Placement} : r.placement? known = some placement ↔
      (r.isResolved known = true ∧ r.kind.isContainment = true) ∧
        ⟨r.source, r.target⟩ = placement := by
  rw [placement?, Option.ite_none_right_eq_some, Bool.and_eq_true, Option.some_inj]

theorem Placement.mem_conflictWarnings_iff {holder : Ident → Option Ident} {placement : Placement}
    {warning : BuildWarning} : warning ∈ placement.conflictWarnings holder ↔
      ∃ kept, holder placement.child = some kept ∧ kept ≠ placement.parent ∧
        warning = .conflictingParent placement.child kept placement.parent := by
  simp only [conflictWarnings, List.mem_map, Option.mem_toList, Option.filter_eq_some_iff,
    decide_eq_true_eq, and_assoc, @eq_comm _ warning]

theorem Relation.mem_warnings_iff {known : Ident → Bool} {holder : Ident → Option Ident}
    {r : Relation} {warning : BuildWarning} : warning ∈ r.warnings known holder ↔
      known r.source = false ∧ warning = .unresolved r.id .source r.source ∨
        known r.target = false ∧ warning = .unresolved r.id .target r.target ∨
        (r.isResolved known = true ∧ r.kind.isContainment = true) ∧
          ∃ kept, holder r.source = some kept ∧ kept ≠ r.target ∧
            warning = .conflictingParent r.source kept r.target := by
  simp only [warnings, List.mem_append, mem_endWarnings_iff, List.mem_flatMap, Option.mem_toList,
    placement?_eq_some_iff, Placement.mem_conflictWarnings_iff, or_assoc]
  simp only [and_assoc, exists_and_left, exists_eq_left']

theorem mem_warningsOf_iff {items : List Item} {warning : BuildWarning} :
    warning ∈ warningsOf items ↔
    (∃ e, .element e ∈ items ∧ warning ∈ e.ownerWarnings (isElementOf items)) ∨
      ∃ r, .relation r ∈ items ∧
        warning ∈ r.warnings (isElementOf items) (Model.assemble items).parent? := by
  simp only [warningsOf, List.mem_append, List.mem_flatMap, mem_filterMap_element?,
    mem_filterMap_relation?]

/-- A relation that asks for a placement is warned about for this only. -/
theorem Relation.warnings_of_placement? {known : Ident → Bool} {holder : Ident → Option Ident}
    {r : Relation} {placement : Placement} (h : r.placement? known = some placement) :
    r.warnings known holder = placement.conflictWarnings holder := by
  obtain ⟨⟨hresolved, -⟩, -⟩ := Relation.placement?_eq_some_iff.1 h
  rw [isResolved, Bool.and_eq_true] at hresolved
  simp [warnings, endWarnings, hresolved, h]

namespace Containment

variable {c : Containment} {holder : Ident → Option Ident} {placement : Placement}

/-- Every element that is placed has the same holder later on. -/
def KeptBy (c : Containment) (holder : Ident → Option Ident) : Prop :=
  ∀ id kept, c.parent? id = some kept → holder id = some kept

theorem KeptBy.of_putAll {placements : List Placement}
    (h : (c.putAll placements).KeptBy holder) : c.KeptBy holder := by
  intro id kept hkept
  apply h
  rw [parent?_putAll, hkept, Option.some_or]

/-- A placement contradicts the holders at its turn exactly when it contradicts those at the end: if
nothing stood in its way at its turn, it is one of those at the end. -/
theorem KeptBy.conflictWarnings_eq (h : (c.put placement).KeptBy holder) :
    placement.conflictWarnings c.parent? = placement.conflictWarnings holder := by
  have hput := parent?_put c placement placement.child
  rw [if_pos rfl] at hput
  cases hchild : c.parent? placement.child with
  -- nothing is in the way, so the element lies at the end where this placement puts it
  | none =>
    have hholder : holder placement.child = some placement.parent := by
      apply h
      rw [hput, hchild, Option.none_or]
    simp [Placement.conflictWarnings, hchild, hholder]
  -- whatever is in the way is so at the end, too
  | some kept =>
    have hholder : holder placement.child = some kept := by
      apply h
      rw [hput, hchild, Option.some_or]
    rw [Placement.conflictWarnings, Placement.conflictWarnings, hchild, hholder]

end Containment

namespace Resolution

variable {known : Ident → Bool} (resolution : Resolution)

/-- Placing warns of the holder that the element has at this moment, if it is another one. -/
theorem warnings_place (placement : Placement) :
    (resolution.place placement.child placement.parent).warnings =
      resolution.warnings ++ placement.conflictWarnings resolution.containment.parent? := by
  rw [place, Placement.conflictWarnings]
  cases h : resolution.containment.parent? placement.child with
  | none =>
    obtain ⟨placed, hplaced, -⟩ : ∃ placed,
        resolution.containment.assign placement.child placement.parent = .ok placed ∧
          placed.placements = resolution.containment.placements ++ [placement] :=
      Containment.assign_of_none h
    simp [hplaced]
  | some kept =>
    rw [Containment.assign_of_some h]
    by_cases heq : kept = placement.parent
    · simp [heq, Option.filter_some]
    · simp [heq, Option.filter_some, warn]

/-- An element is warned about for its owner, or for the placement that it asks for. -/
theorem warnings_addOwner (element : Element) :
    (resolution.addOwner known element).warnings = resolution.warnings ++
      (element.ownerWarnings known ++ (element.placement? known).toList.flatMap
        (Placement.conflictWarnings resolution.containment.parent?)) := by
  rw [addOwner, Element.ownerWarnings, Element.placement?]
  cases element.owner with
  | none => simp
  | some owner =>
    by_cases h : known owner
    · simp [h, Option.filter_some, warnings_place resolution ⟨element.id, owner⟩]
    · simp [h, Option.filter_some, warn]

theorem warnings_addRelation (relation : Relation) :
    (resolution.addRelation known relation).warnings = resolution.warnings ++
      relation.warnings known resolution.containment.parent? := by
  rw [addRelation, Relation.warnings, Relation.endWarnings, Relation.placement?,
    Relation.isResolved]
  cases known relation.source <;> cases known relation.target <;>
    cases relation.kind.isContainment <;>
    simp [warn, warnings_place resolution ⟨relation.source, relation.target⟩]

/-- A run of steps that each warn on their own account and of the placement they are asked for warns
of all these things in order, and of the placements by what the holders are at the end. -/
theorem warnings_foldl {α : Type} {step : Resolution → α → Resolution}
    {placement? : α → Option Placement} {own : α → List BuildWarning}
    (hcontainment : ∀ r a, (step r a).containment = r.containment.putAll (placement? a).toList)
    (hwarnings : ∀ r a, (step r a).warnings = r.warnings ++
      (own a ++ (placement? a).toList.flatMap
        (Placement.conflictWarnings r.containment.parent?)))
    {list : List α} {holder : Ident → Option Ident}
    (h : (list.foldl step resolution).containment.KeptBy holder) :
    (list.foldl step resolution).warnings = resolution.warnings ++
      list.flatMap fun a =>
        own a ++ (placement? a).toList.flatMap (Placement.conflictWarnings holder) := by
  -- by induction on the run: what is placed in a step is still there at the end
  induction list generalizing resolution with
  | nil => rw [List.foldl_nil, List.flatMap_nil, List.append_nil]
  | cons a rest ih =>
    have hrest : (resolution.containment.putAll (placement? a).toList).KeptBy holder := by
      rw [List.foldl_cons, containment_foldl _ hcontainment, hcontainment] at h
      exact h.of_putAll
    have hconflict : (placement? a).toList.flatMap
        (Placement.conflictWarnings resolution.containment.parent?) =
          (placement? a).toList.flatMap (Placement.conflictWarnings holder) := by
      cases hplacement : placement? a with
      | none => rfl
      | some placement =>
        rw [hplacement] at hrest
        simpa using hrest.conflictWarnings_eq
    rw [List.foldl_cons, ih _ h, hwarnings, hconflict, List.flatMap_cons, List.append_assoc]

end Resolution

variable {items : List Item}

/-- The warnings about the ends of a relation are about references that do not resolve. -/
theorem exists_of_mem_endWarnings {known : Ident → Bool} {r : Relation} {warning : BuildWarning}
    (h : warning ∈ r.endWarnings known) :
    warning = .unresolved r.id .source r.source ∨ warning = .unresolved r.id .target r.target :=
  (Relation.mem_endWarnings_iff.1 h).imp And.right And.right

/-- Owners contradict no holder, as each of them is one. -/
theorem conflictWarnings_placement? (hnodup : (items.map Item.id).Nodup) {e : Element}
    (he : .element e ∈ items) :
    (e.placement? (isElementOf items)).toList.flatMap
      (Placement.conflictWarnings (Model.assemble items).parent?) = [] := by
  rw [Element.placement?]
  cases howner : e.owner.filter (isElementOf items) with
  | none => rfl
  | some owner =>
    have hparent := parent?_of_owner hnodup he howner
    simp [Placement.conflictWarnings, hparent, Option.filter_some]

/-- Resolving the references of items with distinct names makes the warnings about them. -/
theorem warnings_resolve (hnodup : (items.map Item.id).Nodup) :
    (Model.resolve items).warnings = warningsOf items := by
  have hkept : (Model.resolve items).containment.KeptBy (Model.assemble items).parent? := by
    rw [Model.containment_resolve]
    exact fun _ _ hparent => hparent
  -- where the owners have put an element it stays while the relations are placed
  have howners := hkept
  rw [Model.resolve, Resolution.containment_foldl _ fun r a => r.containment_addRelation a]
    at howners
  rw [Model.resolve, Resolution.warnings_foldl _ (fun r a => r.containment_addRelation a)
      (fun r a => r.warnings_addRelation a) hkept,
    Resolution.warnings_foldl _ (fun r a => r.containment_addOwner a)
      (fun r a => r.warnings_addOwner a) howners.of_putAll, warningsOf]
  -- so nothing is left to say of an owner that is declared
  have hempty : ∀ e ∈ items.filterMap Item.element?,
      e.ownerWarnings (isElementOf items) ++ (e.placement? (isElementOf items)).toList.flatMap
        (Placement.conflictWarnings (Model.assemble items).parent?) =
          e.ownerWarnings (isElementOf items) := by
    intro e he
    rw [conflictWarnings_placement? hnodup (mem_filterMap_element?.1 he), List.append_nil]
  rw [List.flatMap_congr hempty]
  rfl

/-- A model of items with distinct names comes with the warnings about them. -/
theorem warnings_of_ofItems (hnodup : (items.map Item.id).Nodup) {built : Built}
    (h : Model.ofItems items = .ok built) : built.warnings = warningsOf items := by
  rw [← warnings_resolve hnodup]
  unfold Model.ofItems at h
  simp only at h
  split at h
  · cases h
  · cases h
    rfl

/-- Building succeeds when names are distinct and no element lies inside itself, and then it gives
the assembled model and the warnings about the declarations. -/
theorem build_eq_ok_iff {sources : List Source} {built : Built} :
    (Model.build sources).value = .ok built ↔
      ((declaredItems sources).map Item.id).Nodup ∧
      (∀ id, ¬ LeadsTo (Model.assemble (declaredItems sources)).parent? id id) ∧
      built = ⟨Model.assemble (declaredItems sources), warningsOf (declaredItems sources)⟩ := by
  have heq : ∀ {made : Built}, ((declaredItems sources).map Item.id).Nodup →
      Model.ofItems (declaredItems sources) = .ok made →
        made = ⟨Model.assemble (declaredItems sources), warningsOf (declaredItems sources)⟩ := by
    intro made hnodup hmade
    rw [← (Model.ofItems_eq_ok hmade).1, ← warnings_of_ofItems hnodup hmade]
  constructor
  · intro h
    obtain ⟨hitems, hnodup⟩ := build_eq_ok h
    obtain ⟨-, hcycle⟩ := Model.ofItems_eq_ok hitems
    exact ⟨hnodup, acyclic_of_findCycle hcycle, heq hnodup hitems⟩
  · rintro ⟨hnodup, hacyclic, rfl⟩
    rw [build_of_nodup hnodup]
    rcases ofItems_cases (declaredItems sources) with ⟨path, -, id, hback⟩ | ⟨made, hmade, -⟩
    · exact absurd hback (hacyclic id)
    · rw [hmade, heq hnodup hmade]

/-- Where names are distinct, an element that lies inside itself is refused. -/
theorem build_of_leadsTo {sources : List Source}
    (hnodup : ((declaredItems sources).map Item.id).Nodup)
    (hback : ∃ id, LeadsTo (Model.assemble (declaredItems sources)).parent? id id) :
    ∃ path, (Model.build sources).value = .error (.containmentCycle path) := by
  rw [build_of_nodup hnodup]
  rcases ofItems_cases (declaredItems sources) with ⟨path, hpath, -⟩ | ⟨built, -, hacyclic⟩
  · exact ⟨path, hpath⟩
  · exact absurd hback (not_exists.2 hacyclic)

/-- An element that is to be placed lies somewhere at the end. -/
theorem exists_parent?_of_mem_placementsOf {placement : Placement}
    (h : placement ∈ placementsOf items) :
    ∃ kept, (Model.assemble items).parent? placement.child = some kept := by
  obtain ⟨first, hfirst, -⟩ := exists_find?_of_mem Placement.child h rfl
  exact ⟨first.parent, by rw [parent?_assemble, hfirst, Option.map_some]⟩

/-- A conflict names what the element lies in at the end, and something else. -/
theorem parent?_of_conflictingParent_mem {id kept ignored : Ident}
    (h : .conflictingParent id kept ignored ∈ warningsOf items) :
    (Model.assemble items).parent? id = some kept ∧ kept ≠ ignored := by
  simp only [mem_warningsOf_iff, Element.mem_ownerWarnings_iff, Relation.mem_warnings_iff] at h
  -- warnings of the other kind are about references
  obtain ⟨e, -, owner, -, -, heq⟩ | ⟨r, -, ⟨-, heq⟩ | ⟨-, heq⟩ | ⟨-, kept', hkept, hne, heq⟩⟩ := h
  · cases heq
  · cases heq
  · cases heq
  · cases heq
    exact ⟨hkept, hne⟩

/-- The warnings of a build are those that the declarations and the finished model call for. -/
structure WarnsExactly (items : List Item) (built : Built) : Prop where
  /-- There are those about the owners in the order of the elements, and then those about the ends
  and the placements in the order of the relations, by what the elements lie in at the end. -/
  in_order : built.warnings =
    (items.filterMap Item.element?).flatMap (Element.ownerWarnings (isElementOf items)) ++
      (items.filterMap Item.relation?).flatMap
        (Relation.warnings (isElementOf items) built.model.parent?)
  /-- Each is about an owner or an end that is no declared element, or about a relation that places
  an element elsewhere than where it lies; and there is one about each of these. -/
  mem_iff : ∀ warning, warning ∈ built.warnings ↔
    (∃ e, .element e ∈ items ∧ ∃ owner, e.owner = some owner ∧ isElementOf items owner = false ∧
      warning = .unresolved e.id .owner owner) ∨
    ∃ r, .relation r ∈ items ∧
      (isElementOf items r.source = false ∧ warning = .unresolved r.id .source r.source ∨
        isElementOf items r.target = false ∧ warning = .unresolved r.id .target r.target ∨
        (r.isResolved (isElementOf items) = true ∧ r.kind.isContainment = true) ∧
          ∃ kept, built.model.parent? r.source = some kept ∧ kept ≠ r.target ∧
            warning = .conflictingParent r.source kept r.target)
  /-- A relation that places an element is warned about once, unless it repeats what the element
  lies in. -/
  placing : ∀ r, .relation r ∈ items → r.isResolved (isElementOf items) = true →
    r.kind.isContainment = true → ∃ kept, built.model.parent? r.source = some kept ∧
      r.warnings (isElementOf items) built.model.parent? =
        if kept = r.target then [] else [.conflictingParent r.source kept r.target]
  /-- An element lies in its owner if that is declared, so the owner contradicts nothing. -/
  owner_kept : ∀ e, .element e ∈ items → ∀ owner, e.owner = some owner →
    isElementOf items owner = true → built.model.parent? e.id = some owner ∧
      ∀ kept, .conflictingParent e.id kept owner ∉ built.warnings

/-- Every model that is built comes with exactly the warnings that are called for. -/
theorem warnsExactly_of_build {sources : List Source} {built : Built}
    (h : (Model.build sources).value = .ok built) :
    WarnsExactly (declaredItems sources) built := by
  obtain ⟨hnodup, -, rfl⟩ := build_eq_ok_iff.1 h
  refine ⟨rfl, ?_, ?_, ?_⟩
  · intro warning
    simp only [mem_warningsOf_iff, Element.mem_ownerWarnings_iff, Relation.mem_warnings_iff]
  · intro r hr hresolved hcontainment
    have hplacement : r.placement? (isElementOf (declaredItems sources)) =
        some ⟨r.source, r.target⟩ :=
      Relation.placement?_eq_some_iff.2 ⟨⟨hresolved, hcontainment⟩, rfl⟩
    obtain ⟨kept, hkept⟩ := exists_parent?_of_mem_placementsOf
      (List.mem_append_right _ (List.mem_filterMap.2 ⟨r, mem_filterMap_relation?.2 hr, hplacement⟩))
    refine ⟨kept, hkept, ?_⟩
    rw [Relation.warnings_of_placement? hplacement, Placement.conflictWarnings, hkept]
    by_cases heq : kept = r.target
    · simp [heq]
    · simp [heq]
  · intro e he owner howner hdeclared
    have hparent : (Model.assemble (declaredItems sources)).parent? e.id = some owner :=
      parent?_of_owner hnodup he (Option.filter_eq_some_iff.2 ⟨howner, hdeclared⟩)
    refine ⟨hparent, fun kept hmem => ?_⟩
    -- the holder that a conflict names is the owner itself
    obtain ⟨hkept, hne⟩ := parent?_of_conflictingParent_mem hmem
    exact hne (Option.some.inj (hkept.symm.trans hparent))

/-- The data base has an owner that is not declared, one container stays in the system that encloses
it and one relation ends at another relation. The placement of the data base in the shop is its
first one, and it is not warned about. -/
theorem warnsExactly_shopSources :
    ∃ built, (Model.build shopSources).value = .ok built ∧
      built.warnings =
        [.unresolved ⟨"db"⟩ .owner ⟨"ghost"⟩,
          .conflictingParent ⟨"shop/web"⟩ ⟨"shop"⟩ ⟨"shop/queue"⟩,
          .unresolved ⟨"db-to-relation"⟩ .target ⟨"web-to-db"⟩] ∧
      WarnsExactly (declaredItems shopSources) built := by
  obtain ⟨built, hbuilt, hwarnings⟩ :
      ∃ built, (Model.build shopSources).value = .ok built ∧
        built.warnings =
          [.unresolved ⟨"db"⟩ .owner ⟨"ghost"⟩,
            .conflictingParent ⟨"shop/web"⟩ ⟨"shop"⟩ ⟨"shop/queue"⟩,
            .unresolved ⟨"db-to-relation"⟩ .target ⟨"web-to-db"⟩] :=
    exists_built_of_map (by decide +kernel)
  exact ⟨built, hbuilt, hwarnings, warnsExactly_of_build hbuilt⟩

end Viewpoint
