import Viewpoint.Proofs.Model.Keeping
import Viewpoint.Proofs.Model.Turns

/-!
# Turns and the order of declaration

Placements are made in turns and not in the order in which they are declared, so the two orders can
disagree in two ways. The placement of an element that is declared first need not be the one that
counts, and what an element holds need not be listed as it is declared. Both happen only through
containment relations, and this module says exactly when.

* `DeclaredFirst` picks the placement of an element that is declared first. `Overtaken` says that it
  is a relation which contradicts the owner, and `holder_of_build` that only then it does not count.
* `PlacedLate` says that a relation places an element behind one that is declared after it, and
  `listsInTurn_of_build` that only then what is held is not listed in the order of declaration.
-/

namespace Viewpoint

/-- A placement of an element that is declared before all other placements of it. -/
structure DeclaredFirst (items : List Item) (turn : Turn) (child parent : Ident) : Prop where
  /-- The placement is declared. -/
  placedAt : PlacedAt items turn ⟨child, parent⟩
  /-- All other placements of the element are declared at later positions. -/
  earliest : ∀ other holder, PlacedAt items other ⟨child, holder⟩ → turn.position ≤ other.position

/-- The first declared placement of an element is a relation, and it names another holder than the
owner of the element. -/
def Overtaken (items : List Item) (child : Ident) : Prop :=
  ∃ i j owner holder, PlacedAt items (.owner i) ⟨child, owner⟩ ∧
    DeclaredFirst items (.relation j) child holder ∧ holder ≠ owner

variable {items : List Item} {child parent : Ident}

/-- The placement that is declared first can be found in the schedule. -/
theorem declaredFirst_iff {turn : Turn} : DeclaredFirst items turn child parent ↔
    (turn, ⟨child, parent⟩) ∈ scheduleOf items ∧
      ∀ entry ∈ scheduleOf items, entry.2.child = child → turn.position ≤ entry.1.position := by
  rw [mem_scheduleOf]
  constructor
  · rintro ⟨hplaced, hearliest⟩
    refine ⟨hplaced, ?_⟩
    rintro ⟨other, ⟨child', holder⟩⟩ hother rfl
    exact hearliest other holder (mem_scheduleOf.1 hother)
  · rintro ⟨hplaced, hearliest⟩
    exact ⟨hplaced, fun other holder hother => hearliest _ (mem_scheduleOf.2 hother) rfl⟩

instance {turn : Turn} : Decidable (DeclaredFirst items turn child parent) :=
  decidable_of_iff' _ declaredFirst_iff

/-- Among distinct names a name is declared at one position. -/
theorem position_eq_of_id_eq (hnodup : (items.map Item.id).Nodup) {i j : Nat} {a b : Item}
    (ha : items[i]? = some a) (hb : items[j]? = some b) (hid : a.id = b.id) : i = j := by
  have hi : (Model.assemble items).declarationIndex a.id = some i :=
    (declarationIndex_assemble hnodup).2 ⟨a, ha, rfl⟩
  have hj : (Model.assemble items).declarationIndex a.id = some j :=
    (declarationIndex_assemble hnodup).2 ⟨b, hb, hid.symm⟩
  exact Option.some.inj (hi.symm.trans hj)

/-- The turn of an owner is at the position of the element. -/
theorem PlacedAt.exists_element {i : Nat} (h : PlacedAt items (.owner i) ⟨child, parent⟩) :
    ∃ e, items[i]? = some (.element e) ∧ e.id = child := by
  cases h with
  | owner declared _ _ => exact ⟨_, declared, rfl⟩

/-- What is placed is declared. -/
theorem PlacedAt.exists_position {turn : Turn} (h : PlacedAt items turn ⟨child, parent⟩) :
    ∃ (position : Nat) (item : Item), items[position]? = some item ∧ item.id = child := by
  cases h with
  | owner declared _ _ => exact ⟨_, _, declared, rfl⟩
  | relation _ _ isSource _ =>
    obtain ⟨e, he, hid⟩ := isElementOf_iff.1 isSource
    obtain ⟨position, hposition⟩ := List.mem_iff_getElem?.1 he
    exact ⟨position, _, hposition, hid⟩

/-- The placement in an owner is always the first one, as no other owner and no relation can take
its turn before. -/
theorem placedFirst_of_owner (hnodup : (items.map Item.id).Nodup) {i : Nat}
    (h : PlacedAt items (.owner i) ⟨child, parent⟩) :
    PlacedFirst items (.owner i) child parent := by
  refine ⟨h, fun other holder hother => ?_⟩
  cases other with
  | owner k =>
    obtain ⟨e, he, hid⟩ := h.exists_element
    obtain ⟨e', he', hid'⟩ := hother.exists_element
    rw [position_eq_of_id_eq hnodup he he' (hid.trans hid'.symm)]
  | relation k => exact Turn.owner_lt_relation.le

/-- The placement in an owner is the one that counts. -/
theorem parent?_of_placedAt_owner (hnodup : (items.map Item.id).Nodup) {i : Nat}
    (h : PlacedAt items (.owner i) ⟨child, parent⟩) :
    (Model.assemble items).parent? child = some parent :=
  parent?_assemble_iff.2 ⟨_, placedFirst_of_owner hnodup h⟩

/-- The placement that is declared first counts, unless it is a relation that contradicts the
owner. -/
theorem forall_declaredFirst_iff (hnodup : (items.map Item.id).Nodup) :
    (∀ turn parent, DeclaredFirst items turn child parent →
      (Model.assemble items).parent? child = some parent) ↔ ¬ Overtaken items child := by
  constructor
  · rintro hfirst ⟨i, j, owner, holder, howner, hholder, hne⟩
    have hparent := parent?_of_placedAt_owner hnodup howner
    exact hne (Option.some.inj ((hfirst _ _ hholder).symm.trans hparent))
  · intro hovertaken turn parent hfirst
    cases turn with
    | owner i => exact parent?_of_placedAt_owner hnodup hfirst.placedAt
    | relation j =>
      by_cases howned : ∃ i owner, PlacedAt items (.owner i) ⟨child, owner⟩
      · obtain ⟨i, owner, howner⟩ := howned
        -- the relation agrees with the owner, which counts
        have heq : parent = owner := by
          by_contra hne
          exact hovertaken ⟨i, j, owner, parent, howner, hfirst, hne⟩
        rw [heq]
        exact parent?_of_placedAt_owner hnodup howner
      · refine parent?_assemble_iff.2 ⟨_, hfirst.placedAt, fun other holder hother => ?_⟩
        -- without an owner there are only relations, whose turns follow their positions
        cases other with
        | owner i => exact absurd ⟨i, holder, hother⟩ howned
        | relation k =>
          exact not_lt.1 fun hlt =>
            absurd (Turn.relation_lt_relation.1 hlt) (not_lt.2 (hfirst.earliest _ _ hother))

/-- In a model that is built an element lies where its placement with the least turn says, and this
is the placement that is declared first unless a relation declared before the element contradicts
the owner. -/
theorem holder_of_build {sources : List Source} {built : Built}
    (h : (Model.build sources).value = .ok built) (child : Ident) :
    (∀ parent, built.model.parent? child = some parent ↔
      ∃ turn, PlacedFirst (declaredItems sources) turn child parent) ∧
    ((∀ turn parent, DeclaredFirst (declaredItems sources) turn child parent →
      built.model.parent? child = some parent) ↔ ¬ Overtaken (declaredItems sources) child) := by
  obtain ⟨hmodel, hnodup⟩ := assemble_of_build h
  rw [hmodel]
  exact ⟨fun parent => parent?_assemble_iff, forall_declaredFirst_iff hnodup⟩

/-- The holder of an element that its owner and then a relation place. -/
theorem holder_shopSources :
    ∃ built, (Model.build shopSources).value = .ok built ∧
      built.model.parent? ⟨"shop/web"⟩ = some ⟨"shop"⟩ ∧
      (∀ parent, built.model.parent? ⟨"shop/web"⟩ = some parent ↔
        ∃ turn, PlacedFirst (declaredItems shopSources) turn ⟨"shop/web"⟩ parent) ∧
      ((∀ turn parent, DeclaredFirst (declaredItems shopSources) turn ⟨"shop/web"⟩ parent →
        built.model.parent? ⟨"shop/web"⟩ = some parent) ↔
          ¬ Overtaken (declaredItems shopSources) ⟨"shop/web"⟩) := by
  obtain ⟨built, hbuilt, hparent⟩ :
      ∃ built, (Model.build shopSources).value = .ok built ∧
        built.model.parent? ⟨"shop/web"⟩ = some ⟨"shop"⟩ := exists_built_of_map (by decide +kernel)
  exact ⟨built, hbuilt, hparent, holder_of_build hbuilt _⟩

/-- An element whose owner comes after a relation that places the element elsewhere. -/
def lateOwnerSources : List Source :=
  [{ decls :=
      [.element (.node { id := "p1", kind := .modeled .container } []),
        .element (.node { id := "p2", kind := .modeled .container } []),
        .relation { id := "in", kind := .modeled .containedIn, source := "c", target := "p2" },
        .element (.node { id := "c", kind := .modeled .container, owner := some "p1" } [])] }]

/-- The placement that is declared first does not count when it is overtaken. -/
theorem parent?_lateOwnerSources :
    ∃ built, (Model.build lateOwnerSources).value = .ok built ∧
      DeclaredFirst (declaredItems lateOwnerSources) (.relation 2) ⟨"c"⟩ ⟨"p2"⟩ ∧
      built.model.parent? ⟨"c"⟩ = some ⟨"p1"⟩ := by
  obtain ⟨built, hbuilt, hparent⟩ :
      ∃ built, (Model.build lateOwnerSources).value = .ok built ∧
        built.model.parent? ⟨"c"⟩ = some ⟨"p1"⟩ := exists_built_of_map (by decide +kernel)
  exact ⟨built, hbuilt, by decide +kernel, hparent⟩

/-- One name is declared before another. -/
def Model.DeclaredEarlier (model : Model) (a b : Ident) : Prop :=
  ∃ i j, model.declarationIndex a = some i ∧ model.declarationIndex b = some j ∧ i < j

/-- A relation places an element behind another one in the same holder, though the other one is
declared after it. -/
def PlacedLate (items : List Item) (model : Model) (parent : Ident) : Prop :=
  ∃ first late s j, PlacedFirst items s first parent ∧
    PlacedFirst items (.relation j) late parent ∧ s < .relation j ∧
      model.DeclaredEarlier late first

/-- How an element lists what it holds. -/
structure ListsInTurn (items : List Item) (model : Model) (parent : Ident) : Prop where
  /-- It lists the elements that lie in it. -/
  mem_iff : ∀ child, child ∈ model.children parent ↔ model.parent? child = some parent
  /-- They follow each other as their placements were made. -/
  by_turn : (model.children parent).Pairwise fun a b =>
    ∃ s t, PlacedFirst items s a parent ∧ PlacedFirst items t b parent ∧ s < t
  /-- They follow each other as they are declared, unless a relation places one late. -/
  declaredEarlier_iff : (model.children parent).Pairwise model.DeclaredEarlier ↔
    ¬ PlacedLate items model parent

/-- An element has one first placement. -/
theorem PlacedFirst.turn_eq {s t : Turn} {holder : Ident} (hs : PlacedFirst items s child parent)
    (ht : PlacedFirst items t child holder) : s = t :=
  le_antisymm (hs.least _ _ ht.placedAt) (ht.least _ _ hs.placedAt)

/-- An element is listed where its first placement says. -/
theorem PlacedFirst.mem_children {turn : Turn} (h : PlacedFirst items turn child parent) :
    child ∈ (Model.assemble items).children parent :=
  Containment.mem_children_iff.2 (parent?_assemble_iff.2 ⟨turn, h⟩)

/-- Nothing is declared earlier than what is declared earlier than it. -/
theorem Model.DeclaredEarlier.asymm {model : Model} {a b : Ident} (hab : model.DeclaredEarlier a b)
    (hba : model.DeclaredEarlier b a) : False := by
  obtain ⟨i, j, hi, hj, hij⟩ := hab
  obtain ⟨j', i', hj', hi', hji⟩ := hba
  cases hi.symm.trans hi'
  cases hj.symm.trans hj'
  exact hij.asymm hji

namespace Model

/-- The names of the elements follow the declarations. -/
theorem ids_elements_sublist (items : List Item) :
    ((assemble items).elements.map Element.id).Sublist (items.map Item.id) := by
  rw [ids_elements_assemble]
  induction items with
  | nil => exact .slnil
  | cons item rest ih =>
    cases item with
    | element e => exact ih.cons_cons e.id
    | relation r => exact ih.cons r.id

/-- So do the names of the resolved relations. -/
theorem ids_relations_sublist (items : List Item) :
    ((assemble items).relations.map Relation.id).Sublist (items.map Item.id) := by
  have hsublist := (map_relation_filter_sublist (Relation.isResolved (isElementOf items)) items).map
    Item.id
  rwa [List.map_map] at hsublist

/-- Declarations with distinct names follow each other by their positions. -/
theorem pairwise_declaredEarlier (hnodup : (items.map Item.id).Nodup) :
    (items.map Item.id).Pairwise (assemble items).DeclaredEarlier := by
  rw [List.pairwise_map, List.pairwise_iff_getElem]
  intro i j hi hj hlt
  exact ⟨i, j, (declarationIndex_assemble hnodup).2 ⟨_, List.getElem?_eq_getElem hi, rfl⟩,
    (declarationIndex_assemble hnodup).2 ⟨_, List.getElem?_eq_getElem hj, rfl⟩, hlt⟩

end Model

/-- In a list that is ordered in two ways, two members that the first does not order one way round
are ordered by the second the other way round. -/
theorem rel_of_pairwise {α : Type} {R S : α → α → Prop} {l : List α} (hS : l.Pairwise S)
    (hR : l.Pairwise R) {a b : α} (ha : a ∈ l) (hb : b ∈ l) (hne : a ≠ b) (hnot : ¬ S b a) :
    R a b := by
  have : Std.Symm fun a b => (S a b ∧ R a b) ∨ (S b a ∧ R b a) := ⟨fun _ _ => Or.symm⟩
  have hboth : l.Pairwise fun a b => (S a b ∧ R a b) ∨ (S b a ∧ R b a) :=
    (hS.and hR).imp Or.inl
  rcases hboth.forall ha hb hne with hab | hba
  · exact hab.2
  · exact absurd hba.1 hnot

/-- Of two elements that owners place, the one with the earlier turn is declared earlier. -/
theorem declaredEarlier_of_owners (hnodup : (items.map Item.id).Nodup) {i j : Nat}
    {a b holderA holderB : Ident} (ha : PlacedAt items (.owner i) ⟨a, holderA⟩)
    (hb : PlacedAt items (.owner j) ⟨b, holderB⟩) (hlt : i < j) :
    (Model.assemble items).DeclaredEarlier a b := by
  obtain ⟨e, he, hid⟩ := ha.exists_element
  obtain ⟨e', he', hid'⟩ := hb.exists_element
  exact ⟨i, j, (declarationIndex_assemble hnodup).2 ⟨_, he, hid⟩,
    (declarationIndex_assemble hnodup).2 ⟨_, he', hid'⟩, hlt⟩

/-- Of two different elements that are placed, one is declared earlier. -/
theorem declaredEarlier_total (hnodup : (items.map Item.id).Nodup) {s t : Turn}
    {a b holderA holderB : Ident} (ha : PlacedAt items s ⟨a, holderA⟩)
    (hb : PlacedAt items t ⟨b, holderB⟩) (hne : a ≠ b) :
    (Model.assemble items).DeclaredEarlier a b ∨ (Model.assemble items).DeclaredEarlier b a := by
  obtain ⟨i, x, hx, rfl⟩ := ha.exists_position
  obtain ⟨j, y, hy, rfl⟩ := hb.exists_position
  have hi := (declarationIndex_assemble hnodup).2 ⟨x, hx, rfl⟩
  have hj := (declarationIndex_assemble hnodup).2 ⟨y, hy, rfl⟩
  rcases Nat.lt_trichotomy i j with hlt | rfl | hgt
  · exact Or.inl ⟨i, j, hi, hj, hlt⟩
  · exact absurd (congrArg Item.id (Option.some.inj (hx.symm.trans hy))) hne
  · exact Or.inr ⟨j, i, hj, hi, hgt⟩

/-- What an element holds is listed as it is declared, unless a relation places one late. -/
theorem pairwise_declaredEarlier_iff (hnodup : (items.map Item.id).Nodup) :
    ((Model.assemble items).children parent).Pairwise (Model.assemble items).DeclaredEarlier ↔
      ¬ PlacedLate items (Model.assemble items) parent := by
  have hturns := pairwise_children_assemble items parent
  constructor
  · rintro hdeclared ⟨first, late, s, j, hfirst, hlate, hlt, hearlier⟩
    have hmem := hfirst.mem_children
    have hmem' := hlate.mem_children
    have hne : first ≠ late := by
      rintro rfl
      exact hlt.ne (hfirst.turn_eq hlate)
    refine hearlier.asymm (rel_of_pairwise hturns hdeclared hmem hmem' hne ?_)
    -- the turns of the two elements are the given ones
    rintro ⟨t, s', ht, hs', hts⟩
    rw [ht.turn_eq hlate, hs'.turn_eq hfirst] at hts
    exact hts.asymm hlt
  · intro hlate
    refine hturns.imp ?_
    rintro a b ⟨s, t, hs, ht, hlt⟩
    have hne : a ≠ b := by
      rintro rfl
      exact hlt.ne (hs.turn_eq ht)
    cases t with
    | owner j =>
      cases s with
      | owner i =>
        exact declaredEarlier_of_owners hnodup hs.placedAt ht.placedAt (Turn.owner_lt_owner.1 hlt)
      | relation i => exact absurd hlt Turn.owner_lt_relation.asymm
    | relation j =>
      refine (declaredEarlier_total hnodup hs.placedAt ht.placedAt hne).resolve_right ?_
      exact fun hearlier => hlate ⟨a, b, s, j, hs, ht, hlt, hearlier⟩

/-- In a model that is built every element lists what it holds in the order of the turns, and this
is the order of declaration unless a relation places one late. -/
theorem listsInTurn_of_build {sources : List Source} {built : Built}
    (h : (Model.build sources).value = .ok built) (parent : Ident) :
    ListsInTurn (declaredItems sources) built.model parent := by
  obtain ⟨hmodel, hnodup⟩ := assemble_of_build h
  rw [hmodel]
  exact ⟨fun _ => Containment.mem_children_iff, pairwise_children_assemble _ _,
    pairwise_declaredEarlier_iff hnodup⟩

/-- An element that holds two enclosed elements and one that a relation places. -/
theorem listsInTurn_shopSources :
    ∃ built, (Model.build shopSources).value = .ok built ∧
      built.model.children ⟨"shop"⟩ = [⟨"shop/web"⟩, ⟨"shop/queue"⟩, ⟨"db"⟩] ∧
      ListsInTurn (declaredItems shopSources) built.model ⟨"shop"⟩ := by
  obtain ⟨built, hbuilt, hchildren⟩ :
      ∃ built, (Model.build shopSources).value = .ok built ∧
        built.model.children ⟨"shop"⟩ = [⟨"shop/web"⟩, ⟨"shop/queue"⟩, ⟨"db"⟩] :=
    exists_built_of_map (by decide +kernel)
  exact ⟨built, hbuilt, hchildren, listsInTurn_of_build hbuilt _⟩

/-- A relation places one element, and then another one is declared whose owner is the same. -/
def lateRelationSources : List Source :=
  [{ decls :=
      [.element (.node { id := "p", kind := .modeled .container } []),
        .element (.node { id := "a", kind := .modeled .container } []),
        .relation { id := "in", kind := .modeled .containedIn, source := "a", target := "p" },
        .element (.node { id := "b", kind := .modeled .container, owner := some "p" } [])] }]

/-- The element that the relation places is declared first and listed last. -/
theorem children_lateRelationSources :
    ∃ built, (Model.build lateRelationSources).value = .ok built ∧
      built.model.children ⟨"p"⟩ = [⟨"b"⟩, ⟨"a"⟩] ∧
      ¬ (built.model.children ⟨"p"⟩).Pairwise built.model.DeclaredEarlier := by
  obtain ⟨built, hbuilt, hobserved⟩ :
      ∃ built, (Model.build lateRelationSources).value = .ok built ∧
        (built.model.children ⟨"p"⟩, built.model.declarationIndex ⟨"a"⟩,
          built.model.declarationIndex ⟨"b"⟩) = ([⟨"b"⟩, ⟨"a"⟩], some 1, some 3) :=
    exists_built_of_map (by decide +kernel)
  simp only [Prod.mk.injEq] at hobserved
  obtain ⟨hchildren, ha, hb⟩ := hobserved
  refine ⟨built, hbuilt, hchildren, fun hpairwise => ?_⟩
  have hba : built.model.DeclaredEarlier ⟨"b"⟩ ⟨"a"⟩ := by
    rw [hchildren] at hpairwise
    exact List.rel_of_pairwise_cons hpairwise (by simp)
  exact hba.asymm ⟨1, 3, ha, hb, by decide⟩

end Viewpoint
