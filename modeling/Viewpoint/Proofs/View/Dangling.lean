import Viewpoint.Proofs.Model.Keeping
import Viewpoint.Proofs.Model.Warnings
import Viewpoint.Proofs.View.Copies
import Viewpoint.Proofs.View.SameAnswers

/-!
# References that lead nowhere

A reference to an element that is not declared does no harm. A relation with such an end is kept
aside, an owner that is not declared is dropped, and building warns of both. Nothing else comes of
them: no answer of the model changes, from single criteria up to composed views, although the
relation takes a position among the declarations and every later declaration moves on by one.

* `Exchanged` says that two lists differ in one part, and `ExchangedDecls` that two lists of sources
  do so.
* `DanglingEdit` adds a relation with an end that is not declared, or such an owner, to sources.
* `InertAddition` says what becomes of the model, and `inertAddition_of_build` that every dangling
  edit is of this kind.
-/

namespace Viewpoint

/-- The second list is the first one with one part exchanged for another. -/
def Exchanged {α : Type} (part part' old new : List α) : Prop :=
  ∃ before after, old = before ++ part ++ after ∧ new = before ++ part' ++ after

namespace Exchanged

variable {α β : Type} {part part' old new outer outer' : List α}

theorem refl (list : List α) : Exchanged [] [] list list :=
  ⟨list, [], by simp, by simp⟩

/-- Where a part is exchanged for itself, the list stays as it is. -/
theorem eq_of_eq (h : Exchanged part part' old new) (hpart : part' = part) : new = old := by
  obtain ⟨before, after, rfl, rfl⟩ := h
  rw [hpart]

/-- What is exchanged within a part is exchanged within the list. -/
theorem within (h : Exchanged part part' old new) (houter : Exchanged old new outer outer') :
    Exchanged part part' outer outer' := by
  obtain ⟨before, after, rfl, rfl⟩ := h
  obtain ⟨earlier, later, rfl, rfl⟩ := houter
  exact ⟨earlier ++ before, after ++ later, by simp only [List.append_assoc],
    by simp only [List.append_assoc]⟩

theorem append_left (h : Exchanged part part' old new) (front : List α) :
    Exchanged part part' (front ++ old) (front ++ new) :=
  h.within ⟨front, [], by rw [List.append_nil], by rw [List.append_nil]⟩

theorem append_right (h : Exchanged part part' old new) (back : List α) :
    Exchanged part part' (old ++ back) (new ++ back) :=
  h.within ⟨[], back, rfl, rfl⟩

/-- What is made of lists piece by piece is exchanged with the part that it is made of. -/
theorem of_append (h : Exchanged part part' old new) {f : List α → List β}
    (happend : ∀ front back, f (front ++ back) = f front ++ f back) :
    Exchanged (f part) (f part') (f old) (f new) := by
  obtain ⟨before, after, rfl, rfl⟩ := h
  exact ⟨f before, f after, by rw [happend, happend], by rw [happend, happend]⟩

theorem flatMap (h : Exchanged part part' old new) (f : α → List β) :
    Exchanged (part.flatMap f) (part'.flatMap f) (old.flatMap f) (new.flatMap f) :=
  h.of_append fun _ _ => List.flatMap_append

theorem filterMap (h : Exchanged part part' old new) (f : α → Option β) :
    Exchanged (part.filterMap f) (part'.filterMap f) (old.filterMap f) (new.filterMap f) :=
  h.of_append fun _ _ => List.filterMap_append

theorem filter (h : Exchanged part part' old new) (test : α → Bool) :
    Exchanged (part.filter test) (part'.filter test) (old.filter test) (new.filter test) :=
  h.of_append fun _ _ => List.filter_append _ _

theorem map (h : Exchanged part part' old new) (f : α → β) :
    Exchanged (part.map f) (part'.map f) (old.map f) (new.map f) :=
  h.of_append fun _ _ => List.map_append

/-- A member that is added joins the others. -/
theorem perm_cons {a : α} (h : Exchanged [] [a] old new) : new.Perm (a :: old) := by
  obtain ⟨before, after, rfl, rfl⟩ := h
  rw [List.append_nil, List.append_assoc]
  exact List.perm_middle

end Exchanged

/-- In one of the sources, which keeps its name, some declarations are exchanged for others. -/
def ExchangedDecls (part part' : List Decl) (sources sources' : List Source) : Prop :=
  ∃ source source', Exchanged [source] [source'] sources sources' ∧ source'.name = source.name ∧
    Exchanged part part' source.decls source'.decls

/-- One dangling reference more in the sources, with the relation that it adds to those kept aside
and with the warnings that it causes. -/
inductive DanglingEdit (sources sources' : List Source) : List Relation → List BuildWarning → Prop
  /-- A relation with a new name and an end that is no declared element, at any place of any
  source. -/
  | relation (raw : RawRelation) (edit : ExchangedDecls [] [.relation raw] sources sources')
      (fresh : ⟨raw.id⟩ ∉ (declaredItems sources).map Item.id)
      (dangling : raw.toRelation.isResolved (isElementOf (declaredItems sources)) = false) :
      DanglingEdit sources sources' [raw.toRelation]
        (raw.toRelation.endWarnings (isElementOf (declaredItems sources)))
  /-- An owner that is no declared element, for an element at the top level without an owner. -/
  | owner (raw : RawElement) (children : List ElementTree) (owner : String)
      (edit : ExchangedDecls [.element (.node raw children)]
        [.element (.node { raw with owner := some owner } children)] sources sources')
      (unowned : raw.owner = none)
      (missing : isElementOf (declaredItems sources) ⟨owner⟩ = false) :
      DanglingEdit sources sources' [] [.unresolved ⟨raw.id⟩ .owner ⟨owner⟩]

/-- A model answers as before. Some relations have joined those that are kept aside, each with a
position among the declarations, and there are some more warnings, all of them about references that
do not resolve. -/
structure InertAddition (built built' : Built) (added : List Relation)
    (caused : List BuildWarning) : Prop where
  /-- The elements are the same, in the same order. -/
  elements_eq : built'.model.elements = built.model.elements
  /-- So are the resolved relations. -/
  relations_eq : built'.model.relations = built.model.relations
  /-- Each element lies in the same one. -/
  parent?_eq : ∀ id, built'.model.parent? id = built.model.parent? id
  /-- Each element holds the same ones, in the same order. -/
  children_eq : ∀ id, built'.model.children id = built.model.children id
  /-- The same relations start at each element. -/
  relationsFrom_eq : ∀ id, built'.model.relationsFrom id = built.model.relationsFrom id
  /-- The same relations end at each element. -/
  relationsTo_eq : ∀ id, built'.model.relationsTo id = built.model.relationsTo id
  /-- The same items meet criteria. -/
  satisfies_eq : ∀ criteria item,
    built'.model.satisfies criteria item = built.model.satisfies criteria item
  /-- The same items are selected, in the same order and with the same notices. -/
  select_eq : ∀ settings criteria flags,
    built'.model.select settings criteria flags = built.model.select settings criteria flags
  /-- Sets are widened to the same sets. -/
  expand_eq : ∀ set flags, built'.model.expand set flags = built.model.expand set flags
  /-- Every view of every set has the same outcome, with the same notices. -/
  compose_eq : ∀ (set : ViewSet) settings id,
    set.compose built'.model settings id = set.compose built.model settings id
  /-- The relations that are kept aside are those before and the added ones. -/
  unresolved : Exchanged [] added built.model.unresolved built'.model.unresolved
  /-- The declared names are those before and the ones of the added relations. -/
  declared : Exchanged [] (added.map Relation.id) built.model.declared built'.model.declared
  /-- The warnings are those before and the ones that are caused. -/
  warnings : Exchanged [] caused built.warnings built'.warnings
  /-- All these are about references that do not resolve. -/
  code_eq : ∀ warning ∈ caused, warning.code.text = "E102"

/-- Items that are stored and placed in the same way, with relations more that are kept aside. -/
structure InertItems (items items' : List Item) (added : List Relation)
    (caused : List BuildWarning) : Prop where
  /-- Names are distinct if they were so before. -/
  nodup : (items.map Item.id).Nodup → (items'.map Item.id).Nodup
  /-- The elements are stored in the same way. -/
  elements_eq : (Model.assemble items').elements = (Model.assemble items).elements
  /-- The same relations are resolved. -/
  relations_eq : (Model.assemble items').relations = (Model.assemble items).relations
  /-- The same placements are made. -/
  placements_eq : placementsOf items' = placementsOf items
  /-- Of two items that were there before the same one is declared first. -/
  declaredNoLater_eq : ∀ left ∈ items, ∀ right ∈ items,
    (Model.assemble items').declaredNoLater left.id right.id =
      (Model.assemble items).declaredNoLater left.id right.id
  /-- The added relations are kept aside. -/
  unresolved : Exchanged [] added (Model.assemble items).unresolved
    (Model.assemble items').unresolved
  /-- The names of the added relations are declared. -/
  declared : Exchanged [] (added.map Relation.id) (items.map Item.id) (items'.map Item.id)
  /-- The warnings that are caused join the others. -/
  warnings : Exchanged [] caused (warningsOf items) (warningsOf items')

/-- A name that is added changes the order of no others. -/
theorem declaredNoLater_of_exchanged {model model' : Model} {name left right : Ident}
    (h : Exchanged [] [name] model.declared model'.declared) (hleft : left ≠ name)
    (hright : right ≠ name) :
    model'.declaredNoLater left right = model.declaredNoLater left right := by
  obtain ⟨before, after, hold, hnew⟩ := h
  -- the positions behind the added name move on by one
  have hindex : ∀ id, id ≠ name → model'.declarationIndex id =
      (model.declarationIndex id).map fun i => if i < before.length then i else i + 1 := by
    intro id hid
    have hne : (name == id) = false := by simpa using Ne.symm hid
    simp only [Model.declarationIndex, hold, hnew, List.idxOf?, List.append_nil,
      List.append_assoc, List.findIdx?_append, List.singleton_append, List.findIdx?_cons, hne]
    cases hbefore : before.findIdx? (· == id) with
    -- before the added name the position is the same, and behind it one more than before
    | some i =>
      have hlt : i < before.length := (List.findIdx?_eq_some_iff_getElem.1 hbefore).1
      simp [hlt]
    | none =>
      cases after.findIdx? (· == id) with
      | none => rfl
      | some i => simp [Nat.add_right_comm]
  rw [Model.declaredNoLater, Model.declaredNoLater, hindex left hleft, hindex right hright]
  cases model.declarationIndex left with
  | none => rfl
  | some i =>
    cases model.declarationIndex right with
    | none => rfl
    | some j =>
      rw [Option.map_some, Option.map_some]
      simp only [decide_eq_decide]
      split <;> split <;> omega

section Relation

variable {items items' : List Item} {r : Relation}

/-- A relation that is added makes no name that of an element. -/
theorem isElementOf_of_exchanged (h : Exchanged [] [.relation r] items items') :
    isElementOf items' = isElementOf items := by
  have helements := (h.filterMap Item.element?).eq_of_eq rfl
  exact isElementOf_congr (by rw [helements])

/-- A relation that does not resolve places nothing. -/
theorem placementsOf_of_exchanged (h : Exchanged [] [.relation r] items items')
    (hdangling : r.isResolved (isElementOf items) = false) :
    placementsOf items' = placementsOf items := by
  have hplacement : r.placement? (isElementOf items) = none := by
    simp [Relation.placement?, hdangling]
  have helements := (h.filterMap Item.element?).eq_of_eq rfl
  have hrelations : Exchanged [] [r] (items.filterMap Item.relation?)
      (items'.filterMap Item.relation?) := h.filterMap Item.relation?
  -- the placements of the owners are the same, and the relation adds none to the others
  rw [placementsOf, placementsOf, isElementOf_of_exchanged h, helements]
  refine ((hrelations.filterMap _).append_left _).eq_of_eq ?_
  rw [List.filterMap_cons_none hplacement]

/-- A relation with a new name that does not resolve changes nothing but what is kept aside. -/
theorem inertItems_relation (h : Exchanged [] [.relation r] items items')
    (hfresh : r.id ∉ items.map Item.id) (hdangling : r.isResolved (isElementOf items) = false) :
    InertItems items items' [r] (r.endWarnings (isElementOf items)) := by
  have hknown : isElementOf items' = isElementOf items := isElementOf_of_exchanged h
  have helements := (h.filterMap Item.element?).eq_of_eq rfl
  have hrelations : Exchanged [] [r] (items.filterMap Item.relation?)
      (items'.filterMap Item.relation?) := h.filterMap Item.relation?
  have hplacements := placementsOf_of_exchanged h hdangling
  have hdeclared : Exchanged [] [r.id] (items.map Item.id) (items'.map Item.id) := h.map Item.id
  -- every list that is made of the items has a part for the relation, which is empty but for the
  -- relations that are kept aside, the declared names and the warnings
  constructor
  case nodup =>
    intro hnodup
    exact hdeclared.perm_cons.nodup_iff.2 (List.nodup_cons.2 ⟨hfresh, hnodup⟩)
  case elements_eq =>
    rw [Model.elements_assemble, Model.elements_assemble, hknown, helements]
  case relations_eq =>
    rw [Model.relations_assemble, Model.relations_assemble, hknown]
    exact (hrelations.filter _).eq_of_eq (by simp [hdangling])
  case placements_eq => exact hplacements
  case declaredNoLater_eq =>
    intro left hleft right hright
    refine declaredNoLater_of_exchanged hdeclared ?_ ?_
    · exact fun heq => hfresh (heq ▸ List.mem_map_of_mem hleft)
    · exact fun heq => hfresh (heq ▸ List.mem_map_of_mem hright)
  case unresolved =>
    rw [Model.unresolved_assemble, Model.unresolved_assemble, hknown]
    simpa [hdangling] using hrelations.filter fun r => !r.isResolved (isElementOf items)
  case declared => exact hdeclared
  case warnings =>
    have hholder : (Model.assemble items').parent? = (Model.assemble items).parent? :=
      parent?_assemble_congr hplacements
    have hwarnings : r.warnings (isElementOf items) (Model.assemble items).parent? =
        r.endWarnings (isElementOf items) := by
      simp [Relation.warnings, Relation.placement?, hdangling]
    rw [warningsOf, warningsOf, hknown, hholder, helements, ← hwarnings]
    simpa using (hrelations.flatMap _).append_left _

end Relation

section Owner

variable {items items' : List Item} {e : Element} {owner : Ident}

/-- An owner that is not declared changes nothing at all. -/
theorem inertItems_owner
    (h : Exchanged [.element e] [.element { e with owner := some owner }] items items')
    (hunowned : e.owner = none) (hmissing : isElementOf items owner = false) :
    InertItems items items' [] [.unresolved e.id .owner owner] := by
  have helements : Exchanged [e] [{ e with owner := some owner }] (items.filterMap Item.element?)
      (items'.filterMap Item.element?) := h.filterMap Item.element?
  have hrelations := (h.filterMap Item.relation?).eq_of_eq rfl
  have hdeclared : items'.map Item.id = items.map Item.id := (h.map Item.id).eq_of_eq rfl
  have hknown : isElementOf items' = isElementOf items :=
    isElementOf_congr ((helements.map Element.id).eq_of_eq rfl)
  have hplacements : placementsOf items' = placementsOf items := by
    rw [placementsOf, placementsOf, hknown, hrelations]
    refine ((helements.filterMap _).append_right _).eq_of_eq ?_
    simp [Element.placement?, hunowned, hmissing]
  -- all parts for the element are as they were, but for the warning about its owner
  constructor
  case nodup =>
    intro hnodup
    rwa [hdeclared]
  case elements_eq =>
    rw [Model.elements_assemble, Model.elements_assemble, hknown]
    refine (helements.map _).eq_of_eq ?_
    simp [Element.resolveOwner, hunowned, hmissing]
  case relations_eq =>
    rw [Model.relations_assemble, Model.relations_assemble, hknown, hrelations]
  case placements_eq => exact hplacements
  case declaredNoLater_eq =>
    intro left _ right _
    have hpositions : (Model.assemble items').declared = (Model.assemble items).declared :=
      hdeclared
    rw [Model.declaredNoLater, Model.declaredNoLater, Model.declarationIndex,
      Model.declarationIndex, hpositions]
    rfl
  case unresolved =>
    rw [Model.unresolved_assemble, Model.unresolved_assemble, hknown, hrelations]
    exact .refl _
  case declared =>
    rw [hdeclared]
    exact .refl _
  case warnings =>
    have hholder : (Model.assemble items').parent? = (Model.assemble items).parent? :=
      parent?_assemble_congr hplacements
    have hold : e.ownerWarnings (isElementOf items) = [] := by
      simp [Element.ownerWarnings, hunowned]
    have hnew : ({ e with owner := some owner } : Element).ownerWarnings (isElementOf items) =
        [.unresolved e.id .owner owner] := by
      simp [Element.ownerWarnings, hmissing]
    have howners := helements.flatMap (Element.ownerWarnings (isElementOf items))
    rw [List.flatMap_singleton, List.flatMap_singleton, hold, hnew] at howners
    rw [warningsOf, warningsOf, hknown, hholder, hrelations]
    exact howners.append_right _

end Owner

/-- The items of sources are exchanged with the declarations. -/
theorem ExchangedDecls.items {part part' : List Decl} {sources sources' : List Source}
    (h : ExchangedDecls part part' sources sources') :
    Exchanged (part.flatMap Decl.items) (part'.flatMap Decl.items) (declaredItems sources)
      (declaredItems sources') := by
  obtain ⟨source, source', hsources, -, hdecls⟩ := h
  have hwithin : Exchanged source.items source'.items (declaredItems sources)
      (declaredItems sources') := by
    have hitems := hsources.flatMap Source.items
    rwa [List.flatMap_singleton, List.flatMap_singleton] at hitems
  rw [Source.items_eq_flatMap, Source.items_eq_flatMap] at hwithin
  exact (hdecls.flatMap Decl.items).within hwithin

/-- An owner that is written for an element without one is its owner, and what the element encloses
does not depend on it. -/
theorem exchanged_items_node {raw : RawElement} (hunowned : raw.owner = none) (owner : String)
    (children : List ElementTree) :
    Exchanged [.element (raw.toElement none)]
      [.element { raw.toElement none with owner := some ⟨owner⟩ }]
      (Decl.items (.element (.node raw children)))
      (Decl.items (.element (.node { raw with owner := some owner } children))) := by
  have hold : (Declared.element none raw).item = .element (raw.toElement none) := by
    rw [Declared.item, RawElement.declaredOwner?, hunowned, Option.map_none]
  have hnew : (Declared.element none { raw with owner := some owner }).item =
      .element { raw.toElement none with owner := some ⟨owner⟩ } := by
    rw [Declared.item, RawElement.toElement_eq, RawElement.toElement_eq]
    rfl
  simp only [Decl.items, Decl.unfold, ElementTree.unfold_node, List.map_cons, hold, hnew]
  exact ⟨[], _, rfl, rfl⟩

/-- Dangling references in sources are dangling references in their items. -/
theorem DanglingEdit.inertItems {sources sources' : List Source} {added : List Relation}
    {caused : List BuildWarning} (h : DanglingEdit sources sources' added caused) :
    InertItems (declaredItems sources) (declaredItems sources') added caused := by
  cases h with
  | relation raw edit fresh dangling =>
    exact inertItems_relation edit.items (raw.toRelation_id ▸ fresh) dangling
  | owner raw children owner edit unowned missing =>
    have hitems := edit.items
    rw [List.flatMap_singleton, List.flatMap_singleton] at hitems
    rw [← raw.toElement_id none]
    exact inertItems_owner ((exchanged_items_node unowned owner children).within hitems)
      (raw.toElement_owner none) missing

/-- All warnings that a dangling reference causes are about references that do not resolve. -/
theorem DanglingEdit.code_eq {sources sources' : List Source} {added : List Relation}
    {caused : List BuildWarning} (h : DanglingEdit sources sources' added caused)
    {warning : BuildWarning} (hwarning : warning ∈ caused) : warning.code.text = "E102" := by
  cases h with
  | relation raw edit fresh dangling =>
    rcases exists_of_mem_endWarnings hwarning with rfl | rfl
    · rfl
    · rfl
  | owner raw children owner edit unowned missing =>
    obtain rfl := List.mem_singleton.1 hwarning
    rfl

/-- The items of a model have the names of declared items. -/
theorem exists_declared_of_mem_items {items : List Item} {item : Item}
    (h : item ∈ (Model.assemble items).items) : ∃ declared ∈ items, declared.id = item.id := by
  rcases Model.mem_items_iff.1 h with ⟨e, he, rfl⟩ | ⟨r, hr, rfl⟩
  · obtain ⟨written, hwritten, rfl⟩ := List.mem_map.1 he
    exact ⟨.element written, mem_filterMap_element?.1 hwritten, rfl⟩
  · exact ⟨.relation r, (mem_relations_assemble.1 hr).1, rfl⟩

/-- Relations more that are kept aside change no answer. -/
theorem InertItems.answersAlike {items items' : List Item} {added : List Relation}
    {caused : List BuildWarning} (h : InertItems items items' added caused) :
    AnswersAlike (Model.assemble items) (Model.assemble items') where
  toSameStructure := sameStructure_assemble h.elements_eq h.relations_eq h.placements_eq
  declaredNoLater_eq := by
    intro left hleft right hright
    obtain ⟨first, hfirst, hfirstId⟩ := exists_declared_of_mem_items hleft
    obtain ⟨second, hsecond, hsecondId⟩ := exists_declared_of_mem_items hright
    rw [← hfirstId, ← hsecondId]
    exact h.declaredNoLater_eq first hfirst second hsecond

/-- A dangling reference more in sources that make a model changes no answer of the model. -/
theorem inertAddition_of_build {sources sources' : List Source} {added : List Relation}
    {caused : List BuildWarning} {built : Built} (h : DanglingEdit sources sources' added caused)
    (hbuilt : (Model.build sources).value = .ok built) :
    ∃ built', (Model.build sources').value = .ok built' ∧
      InertAddition built built' added caused := by
  obtain ⟨hnodup, hacyclic, rfl⟩ := build_eq_ok_iff.1 hbuilt
  have hitems : InertItems (declaredItems sources) (declaredItems sources') added caused :=
    h.inertItems
  have halike : AnswersAlike (Model.assemble (declaredItems sources))
      (Model.assemble (declaredItems sources')) := hitems.answersAlike
  have hparent : (Model.assemble (declaredItems sources')).parent? =
      (Model.assemble (declaredItems sources)).parent? :=
    parent?_assemble_congr hitems.placements_eq
  -- the holders are the same, so no element has come to lie inside itself
  have hbuilt' := build_eq_ok_iff.2 ⟨hitems.nodup hnodup, hparent.symm ▸ hacyclic, rfl⟩
  refine ⟨_, hbuilt', ?_⟩
  exact
    { elements_eq := halike.elements_eq
      relations_eq := halike.relations_eq
      parent?_eq := halike.parent?_eq
      children_eq := halike.children_eq
      relationsFrom_eq := halike.relationsFrom_eq
      relationsTo_eq := halike.relationsTo_eq
      satisfies_eq := fun criteria item => by rw [halike.satisfies_eq]
      select_eq := fun settings criteria flags => by rw [halike.select_eq]
      expand_eq := fun set flags => by rw [halike.expand_eq]
      compose_eq := halike.compose_eq
      unresolved := hitems.unresolved
      declared := hitems.declared
      warnings := hitems.warnings
      code_eq := fun _ => h.code_eq }

/-- A relation that would place the store of the depot in something that is not there. -/
def strayRelation : RawRelation :=
  { id := "db-in-ghost", kind := .modeled .containedIn, source := "db", target := "ghost" }

/-- The depot with the stray relation between its declarations. -/
def strayDepotSources : List Source :=
  depotSources.map fun source =>
    { source with decls := source.decls.take 2 ++ .relation strayRelation :: source.decls.drop 2 }

/-- The service of the depot. -/
def depotService : RawElement :=
  { id := "api", kind := .modeled .container, tags := ["backend"] }

/-- The depot with an owner of the service that is not there. -/
def ownedDepotSources : List Source :=
  depotSources.map fun source =>
    { source with
      decls := .element (.node { depotService with owner := some "ghost" } [])
        :: source.decls.drop 1 }

/-- Neither of the two dangling references changes what the depot answers. -/
theorem inertAddition_depotSources :
    ∃ built, (Model.build depotSources).value = .ok built ∧
      (∃ built', (Model.build strayDepotSources).value = .ok built' ∧
        InertAddition built built' [strayRelation.toRelation]
          [.unresolved ⟨"db-in-ghost"⟩ .target ⟨"ghost"⟩]) ∧
      ∃ built', (Model.build ownedDepotSources).value = .ok built' ∧
        InertAddition built built' [] [.unresolved ⟨"api"⟩ .owner ⟨"ghost"⟩] := by
  obtain ⟨built, hbuilt, -⟩ : ∃ built, (Model.build depotSources).value = .ok built ∧
      built.model.unresolved.map Relation.id = [⟨"api-to-ghost"⟩] :=
    exists_built_of_map (by decide +kernel)
  have hstray : DanglingEdit depotSources strayDepotSources [strayRelation.toRelation]
      (strayRelation.toRelation.endWarnings (isElementOf (declaredItems depotSources))) :=
    .relation strayRelation
      ⟨_, _, ⟨[], [], rfl, rfl⟩, rfl, ⟨_, _, (by rw [List.append_nil, List.take_append_drop]),
        List.append_cons ..⟩⟩
      (by decide +kernel) (by decide +kernel)
  have howned : DanglingEdit depotSources ownedDepotSources []
      [.unresolved ⟨"api"⟩ .owner ⟨"ghost"⟩] :=
    .owner depotService [] "ghost" ⟨_, _, ⟨[], [], rfl, rfl⟩, rfl, ⟨[], _, rfl, rfl⟩⟩ rfl
      (by decide +kernel)
  have hcaused : strayRelation.toRelation.endWarnings (isElementOf (declaredItems depotSources)) =
      [.unresolved ⟨"db-in-ghost"⟩ .target ⟨"ghost"⟩] := by decide +kernel
  exact ⟨built, hbuilt, hcaused ▸ inertAddition_of_build hstray hbuilt,
    inertAddition_of_build howned hbuilt⟩

end Viewpoint
