import Mathlib.Data.Sum.Order
import Viewpoint.Proofs.Containment.Schedule
import Viewpoint.Proofs.Model.Forest

/-!
# Which placement counts

An element may be placed several times: by its owner, at the position of the element itself, and by
containment relations, each at its own position. The placements are made in turns. All owners take
theirs before the first relation does, and otherwise the order is that of declaration; the placement
with the least turn counts.

* `Turn` is the turn of a placement and `PlacedAt` says which declarations place which elements.
* `PlacedFirst` picks the placement of an element with the least turn.
* `parent?_assemble_iff` says that this placement gives the element its holder, and
  `pairwise_children_assemble` that what an element holds is listed in the order of the turns.
-/

namespace Viewpoint

/-- When a placement is made, by the position of the declaration that asks for it. -/
inductive Turn where
  /-- The turn of an element with an owner. -/
  | owner (position : Nat)
  /-- The turn of a containment relation. -/
  | relation (position : Nat)

namespace Turn

/-- The position of the declaration that takes the turn. -/
def position : Turn → Nat
  | owner position => position
  | relation position => position

/-- Owners before relations, and by position among either. -/
def rank : Turn → Nat ⊕ₗ Nat
  | owner position => Sum.inlₗ position
  | relation position => Sum.inrₗ position

theorem rank_injective : Function.Injective rank := by
  intro s t h
  cases s <;> cases t <;> simp_all [rank]

instance : LinearOrder Turn := LinearOrder.lift' rank rank_injective

variable {i j : Nat}

@[simp]
theorem owner_lt_owner : owner i < owner j ↔ i < j := Sum.Lex.inl_lt_inl_iff

@[simp]
theorem relation_lt_relation : relation i < relation j ↔ i < j := Sum.Lex.inr_lt_inr_iff

@[simp]
theorem owner_lt_relation : owner i < relation j := Sum.Lex.inl_lt_inr i j

end Turn

/-- The declaration that takes a turn asks for a placement: an element with a declared owner, or a
containment relation between declared elements. -/
inductive PlacedAt (items : List Item) : Turn → Placement → Prop
  | owner {position : Nat} {e : Element} {owner : Ident}
      (declared : items[position]? = some (.element e)) (names : e.owner = some owner)
      (isOwner : isElementOf items owner = true) :
      PlacedAt items (.owner position) ⟨e.id, owner⟩
  | relation {position : Nat} {r : Relation}
      (declared : items[position]? = some (.relation r)) (contains : r.kind.isContainment = true)
      (isSource : isElementOf items r.source = true)
      (isTarget : isElementOf items r.target = true) :
      PlacedAt items (.relation position) ⟨r.source, r.target⟩

/-- A placement of an element that is made before all other placements of it. -/
structure PlacedFirst (items : List Item) (turn : Turn) (child parent : Ident) : Prop where
  /-- The placement is declared. -/
  placedAt : PlacedAt items turn ⟨child, parent⟩
  /-- All other placements of the element have later turns. -/
  least : ∀ other holder, PlacedAt items other ⟨child, holder⟩ → turn ≤ other

variable {items : List Item} {turn : Turn} {child parent : Ident}

/-- The placements of one sort with their turns. -/
def turnsOf (turn : Nat → Turn) (placement? : Item → Option Placement) (items : List Item) :
    List (Turn × Placement) :=
  items.zipIdx.filterMap fun entry => (placement? entry.1).map (turn entry.2, ·)

/-- The placements of all items with their turns. -/
def scheduleOf (items : List Item) : List (Turn × Placement) :=
  turnsOf .owner (fun item => item.element?.bind (Element.placement? (isElementOf items))) items ++
    turnsOf .relation (fun item => item.relation?.bind (Relation.placement? (isElementOf items)))
      items

section turnsOf

variable {turnAt : Nat → Turn} {placement? : Item → Option Placement}

/-- Without the turns there remain the placements. -/
theorem map_snd_turnsOf : (turnsOf turnAt placement? items).map Prod.snd =
    items.filterMap placement? := by
  have hitems : items.filterMap placement? =
      items.zipIdx.filterMap (placement? ∘ Prod.fst) := by
    rw [← List.filterMap_map, List.zipIdx_map_fst]
  rw [turnsOf, List.map_filterMap, hitems]
  congr 1
  funext entry
  simp [Function.comp_def]

/-- A placement has the turn of the item that asks for it. -/
theorem mem_turnsOf {placement : Placement} :
    (turn, placement) ∈ turnsOf turnAt placement? items ↔
      ∃ position item, items[position]? = some item ∧ placement? item = some placement ∧
        turnAt position = turn := by
  rw [turnsOf, List.mem_filterMap]
  constructor
  · rintro ⟨⟨item, position⟩, hmem, hplacement⟩
    obtain ⟨placement', hplacement', heq⟩ := Option.map_eq_some_iff.1 hplacement
    cases heq
    exact ⟨position, item, List.mem_zipIdx_iff_getElem?.1 hmem, hplacement', rfl⟩
  · rintro ⟨position, item, hitem, hplacement, rfl⟩
    exact ⟨(item, position), List.mem_zipIdx_iff_getElem?.2 hitem, by simp [hplacement]⟩

/-- The turns of one sort follow each other as the items do. -/
theorem pairwise_turnsOf (hturn : ∀ i j, i < j → turnAt i < turnAt j) :
    (turnsOf turnAt placement? items).Pairwise fun a b => a.1 < b.1 := by
  rw [turnsOf, List.pairwise_filterMap]
  refine (pairwise_snd_zipIdx items).imp fun hlt a ha b hb => ?_
  obtain ⟨placementA, -, rfl⟩ := Option.map_eq_some_iff.1 ha
  obtain ⟨placementB, -, rfl⟩ := Option.map_eq_some_iff.1 hb
  exact hturn _ _ hlt

end turnsOf

/-- Without the turns the schedule is the run of all placements. -/
theorem map_snd_scheduleOf (items : List Item) :
    (scheduleOf items).map Prod.snd = placementsOf items := by
  rw [scheduleOf, List.map_append, map_snd_turnsOf, map_snd_turnsOf, placementsOf,
    List.filterMap_filterMap, List.filterMap_filterMap]

/-- The schedule is in the order of the turns. -/
theorem pairwise_scheduleOf (items : List Item) :
    (scheduleOf items).Pairwise fun a b => a.1 < b.1 := by
  rw [scheduleOf, List.pairwise_append]
  refine ⟨pairwise_turnsOf fun _ _ => Turn.owner_lt_owner.2,
    pairwise_turnsOf fun _ _ => Turn.relation_lt_relation.2, ?_⟩
  rintro ⟨s, first⟩ hfirst ⟨t, second⟩ hsecond
  obtain ⟨i, -, -, -, rfl⟩ := mem_turnsOf.1 hfirst
  obtain ⟨j, -, -, -, rfl⟩ := mem_turnsOf.1 hsecond
  exact Turn.owner_lt_relation

/-- The schedule holds the placements that are declared. -/
theorem mem_scheduleOf {placement : Placement} :
    (turn, placement) ∈ scheduleOf items ↔ PlacedAt items turn placement := by
  rw [scheduleOf, List.mem_append, mem_turnsOf, mem_turnsOf]
  constructor
  · rintro (⟨position, item, hitem, hplacement, rfl⟩ | ⟨position, item, hitem, hplacement, rfl⟩)
    · obtain ⟨e, he, hplacement⟩ := Option.bind_eq_some_iff.1 hplacement
      obtain ⟨owner, howner, rfl⟩ := Option.map_eq_some_iff.1 hplacement
      obtain ⟨hnames, hdeclared⟩ := Option.filter_eq_some_iff.1 howner
      cases item with
      | element e' =>
        cases he
        exact .owner hitem hnames hdeclared
      | relation r => cases he
    · obtain ⟨r, hr, hplacement⟩ := Option.bind_eq_some_iff.1 hplacement
      rw [Relation.placement?, Relation.isResolved] at hplacement
      split at hplacement
      · next hcond =>
        cases hplacement
        simp only [Bool.and_eq_true] at hcond
        cases item with
        | element e => cases hr
        | relation r' =>
          cases hr
          exact .relation hitem hcond.2 hcond.1.1 hcond.1.2
      · cases hplacement
  · rintro (⟨hdeclared, hnames, howner⟩ | ⟨hdeclared, hcontains, hsource, htarget⟩)
    · refine Or.inl ⟨_, _, hdeclared, ?_, rfl⟩
      simp [Item.element?, Element.placement?, hnames, howner]
    · refine Or.inr ⟨_, _, hdeclared, ?_, rfl⟩
      simp [Item.relation?, Relation.placement?, Relation.isResolved, hcontains, hsource, htarget]

/-- The first placement of an element is the one that the schedule has first. -/
theorem firstInTurn_scheduleOf :
    Containment.FirstInTurn (scheduleOf items) turn ⟨child, parent⟩ ↔
      PlacedFirst items turn child parent := by
  rw [Containment.FirstInTurn, mem_scheduleOf]
  constructor
  · rintro ⟨hplaced, hleast⟩
    exact ⟨hplaced, fun other holder hother => hleast _ (mem_scheduleOf.2 hother) rfl⟩
  · rintro ⟨hplaced, hleast⟩
    refine ⟨hplaced, ?_⟩
    rintro ⟨other, ⟨child', holder⟩⟩ hother rfl
    exact hleast other holder (mem_scheduleOf.1 hother)

/-- An element lies where its placement with the least turn says. -/
theorem parent?_assemble_iff :
    (Model.assemble items).parent? child = some parent ↔
      ∃ turn, PlacedFirst items turn child parent := by
  rw [Model.parent?, Model.assemble, ← map_snd_scheduleOf,
    Containment.parent?_iff_firstInTurn (pairwise_scheduleOf items)]
  simp only [firstInTurn_scheduleOf]

/-- An element lists what it holds in the order of the turns. -/
theorem pairwise_children_assemble (items : List Item) (parent : Ident) :
    ((Model.assemble items).children parent).Pairwise fun a b =>
      ∃ s t, PlacedFirst items s a parent ∧ PlacedFirst items t b parent ∧ s < t := by
  have hpairwise :=
    Containment.pairwise_children_of_schedule (pairwise_scheduleOf items) parent
  simp only [map_snd_scheduleOf, firstInTurn_scheduleOf] at hpairwise
  exact hpairwise

end Viewpoint
