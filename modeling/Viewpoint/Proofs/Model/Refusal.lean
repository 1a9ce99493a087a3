import Viewpoint.Proofs.Model.Turns

/-!
# When no model is built

Building fails for one of two reasons. A name that is declared twice is found while the declarations
are merged, and the first declaration that repeats a name is reported with the place where the name
was declared before. Only when all names are distinct is it asked whether an element lies, through
the placements that count, inside itself.

* `DeclaresAt` and `Site.Before` speak of the places of declarations, and `FirstRepeat` of the first
  one that repeats a name.
* `HeldBy` follows the placements that count.
* `BuildEnds` says how building ends, and `buildEnds` that it ends so for all sources.
-/

namespace Viewpoint

/-- One place comes before another, in the same source or in an earlier one. -/
def Site.Before (a b : Site) : Prop :=
  a.sourceIndex < b.sourceIndex ∨ a.sourceIndex = b.sourceIndex ∧ a.position < b.position

/-- An item is declared at a place: it has this position among the flattened declarations of the
source that has this index and this name. -/
def DeclaresAt (sources : List Source) (site : Site) (item : Item) : Prop :=
  ∃ source, sources[site.sourceIndex]? = some source ∧ source.name = site.source ∧
    source.items[site.position]? = some item

/-- A name is declared at one place and again at a later one. -/
structure Repeats (sources : List Source) (id : Ident) (first duplicate : Site) : Prop where
  /-- The first place declares the name. -/
  declares_first : ∃ item, DeclaresAt sources first item ∧ item.id = id
  /-- The other place declares it too. -/
  declares_duplicate : ∃ item, DeclaresAt sources duplicate item ∧ item.id = id
  /-- The other place comes later. -/
  before : first.Before duplicate

/-- The earliest declaration that repeats a name, and the earliest declaration of that name. -/
structure FirstRepeat (sources : List Source) (id : Ident) (first duplicate : Site) : Prop where
  /-- It repeats the name. -/
  repeats : Repeats sources id first duplicate
  /-- No declaration before it repeats any name. -/
  duplicate_earliest : ∀ other earlier later, Repeats sources other earlier later →
    ¬ later.Before duplicate
  /-- The name is not declared before the first place. -/
  first_earliest : ∀ site item, DeclaresAt sources site item → item.id = id → ¬ site.Before first

/-- An element lies in another one by the placement of it that counts. -/
def HeldBy (items : List Item) (child parent : Ident) : Prop :=
  ∃ turn, PlacedFirst items turn child parent

/-- How building a model ends. -/
structure BuildEnds (sources : List Source) : Prop where
  /-- A repeated name is reported with both its places, whatever the containment is. -/
  duplicateId_iff : ∀ id first duplicate,
    (Model.build sources).value = .error (.duplicateId id first duplicate) ↔
      FirstRepeat sources id first duplicate
  /-- One is reported exactly when two declarations have the same name. -/
  exists_duplicateId_iff :
    (∃ id first duplicate, (Model.build sources).value =
      .error (.duplicateId id first duplicate)) ↔ ¬ ((declaredItems sources).map Item.id).Nodup
  /-- A circle is reported exactly when names are distinct and some element lies inside itself. -/
  exists_containmentCycle_iff :
    (∃ path, (Model.build sources).value = .error (.containmentCycle path)) ↔
      ((declaredItems sources).map Item.id).Nodup ∧
        ∃ id, Relation.TransGen (HeldBy (declaredItems sources)) id id
  /-- In all other cases there is a model. -/
  exists_built_iff :
    (∃ built, (Model.build sources).value = .ok built) ↔
      ((declaredItems sources).map Item.id).Nodup ∧
        ¬ ∃ id, Relation.TransGen (HeldBy (declaredItems sources)) id id

namespace Site

variable {a b c : Site}

theorem Before.trans (hab : a.Before b) (hbc : b.Before c) : a.Before c := by
  unfold Before at *
  omega

theorem Before.asymm (hab : a.Before b) : ¬ b.Before a := by
  unfold Before at *
  omega

/-- Two places follow each other or agree in their numbers. -/
theorem before_trichotomy (a b : Site) :
    a.Before b ∨ b.Before a ∨ a.sourceIndex = b.sourceIndex ∧ a.position = b.position := by
  unfold Before
  omega

end Site

variable {sources : List Source} {merged next : List Sited} {error : BuildError}

/-- A declaration has the place at which it is declared. -/
theorem mem_sitedDeclarations {item : Item} {site : Site} :
    ⟨item, site⟩ ∈ sitedDeclarations sources ↔ DeclaresAt sources site item := by
  rw [sitedDeclarations, List.mem_flatMap]
  constructor
  · rintro ⟨⟨source, index⟩, hsource, hmem⟩
    obtain ⟨position, hposition, heq⟩ := List.mem_mapIdx.1 hmem
    cases heq
    exact ⟨source, List.mem_zipIdx_iff_getElem?.1 hsource, rfl, List.getElem?_eq_getElem hposition⟩
  · rintro ⟨source, hsource, hname, hitem⟩
    obtain ⟨hposition, hitem⟩ := List.getElem?_eq_some_iff.1 hitem
    refine ⟨(source, site.sourceIndex), List.mem_zipIdx_iff_getElem?.2 hsource, ?_⟩
    exact List.mem_mapIdx.2 ⟨site.position, hposition, by rw [hitem, hname]⟩

/-- The declarations follow each other as their places do. -/
theorem pairwise_sitedDeclarations (sources : List Source) :
    (sitedDeclarations sources).Pairwise fun a b => a.site.Before b.site := by
  rw [sitedDeclarations, List.pairwise_flatMap]
  constructor
  · rintro ⟨source, index⟩ -
    refine List.pairwise_iff_getElem.2 fun i j hi hj hij => ?_
    simp only [Source.sited, List.getElem_mapIdx]
    exact Or.inr ⟨rfl, hij⟩
  · refine (pairwise_snd_zipIdx sources).imp fun hlt x hx y hy => ?_
    obtain ⟨i, hi, rfl⟩ := List.mem_mapIdx.1 hx
    obtain ⟨j, hj, rfl⟩ := List.mem_mapIdx.1 hy
    exact Or.inl hlt

/-- A declaration is refused when an earlier one has its name, and those before it have distinct
names. -/
theorem addDistinct_eq_error (h : addDistinct merged next = .error error)
    (hnodup : (sitedIds merged).Nodup) :
    ∃ before duplicate after first, next = before ++ duplicate :: after ∧
      (sitedIds (merged ++ before)).Nodup ∧
      (merged ++ before).find? (·.item.id = duplicate.item.id) = some first ∧
      error = .duplicateId duplicate.item.id first.site duplicate.site := by
  -- by induction on what is added, from any declarations with distinct names
  induction next generalizing merged with
  | nil => cases h
  | cons head rest ih =>
    rw [addDistinct] at h
    split at h
    · next first hfirst =>
      cases h
      exact ⟨[], head, rest, first, rfl, by rwa [List.append_nil], by rwa [List.append_nil], rfl⟩
    · next hfree =>
      have hadded : addDistinct merged [head] = .ok (merged ++ [head]) := by
        rw [addDistinct, hfree]
        rfl
      obtain ⟨before, duplicate, after, first, rfl, hdistinct, hfirst, herror⟩ :=
        ih h (addDistinct_eq_ok hadded hnodup).2
      rw [List.append_assoc] at hdistinct hfirst
      exact ⟨head :: before, duplicate, after, first, rfl, hdistinct, hfirst, herror⟩

/-- In the list of all declarations, what has a place before that of a declaration stands before
it. -/
theorem mem_before {before after : List Sited} {middle other : Sited}
    (hlist : sitedDeclarations sources = before ++ middle :: after)
    (hother : other ∈ sitedDeclarations sources) (hbefore : other.site.Before middle.site) :
    other ∈ before := by
  have hpairwise := pairwise_sitedDeclarations sources
  rw [hlist, List.pairwise_append] at hpairwise
  rw [hlist, List.mem_append, List.mem_cons] at hother
  rcases hother with hother | rfl | hother
  · exact hother
  · exact absurd hbefore hbefore.asymm
  · exact absurd hbefore ((List.pairwise_cons.1 hpairwise.2.1).1 other hother).asymm

/-- The declaration that is refused is the first one that repeats a name. -/
theorem firstRepeat_of_split {before after : List Sited} {first duplicate : Sited}
    (hlist : sitedDeclarations sources = before ++ duplicate :: after)
    (hdistinct : (sitedIds before).Nodup)
    (hfirst : before.find? (·.item.id = duplicate.item.id) = some first) :
    FirstRepeat sources duplicate.item.id first.site duplicate.site := by
  obtain ⟨hid, earlier, later, hsplit, hnone⟩ := List.find?_eq_some_iff_append.1 hfirst
  simp only [decide_eq_true_eq] at hid
  have hmem : first ∈ before := List.mem_of_find?_eq_some hfirst
  have hpairwise := pairwise_sitedDeclarations sources
  rw [hlist, List.pairwise_append] at hpairwise
  refine ⟨⟨⟨first.item, ?_, hid⟩, ⟨duplicate.item, ?_, rfl⟩, ?_⟩, ?_, ?_⟩
  · exact mem_sitedDeclarations.1 (hlist ▸ List.mem_append_left _ hmem)
  · exact mem_sitedDeclarations.1 (by simp [hlist])
  · exact hpairwise.2.2 first hmem duplicate (by simp)
  · rintro other site site' ⟨⟨x, hx, hxid⟩, ⟨y, hy, hyid⟩, hsites⟩ hbefore
    -- both declarations of the name would stand before, where names are distinct
    have hy' := mem_before hlist (mem_sitedDeclarations.2 hy) hbefore
    have hx' := mem_before hlist (mem_sitedDeclarations.2 hx) (hsites.trans hbefore)
    have heq := List.inj_on_of_nodup_map hdistinct hx' hy' (hxid.trans hyid.symm)
    cases heq
    exact hsites.asymm hsites
  · intro site item hdeclares hitem hbefore
    have hlist' : sitedDeclarations sources =
        earlier ++ first :: (later ++ duplicate :: after) := by
      rw [hlist, hsplit, List.append_assoc, List.cons_append]
    have hearlier := mem_before hlist' (mem_sitedDeclarations.2 hdeclares) hbefore
    simpa [hitem] using hnone _ hearlier

/-- At most one item is declared at a place. -/
theorem DeclaresAt.unique {a b : Site} {x y : Item} (ha : DeclaresAt sources a x)
    (hb : DeclaresAt sources b y)
    (hplace : a.sourceIndex = b.sourceIndex ∧ a.position = b.position) : a = b ∧ x = y := by
  obtain ⟨source, hsource, hname, hitem⟩ := ha
  obtain ⟨source', hsource', hname', hitem'⟩ := hb
  rw [← hplace.1, hsource] at hsource'
  cases hsource'
  rw [← hplace.2, hitem] at hitem'
  cases hitem'
  obtain ⟨name, index, position⟩ := a
  obtain ⟨name', index', position'⟩ := b
  simp_all

/-- There is at most one first repetition. -/
theorem FirstRepeat.unique {id id' : Ident} {first first' duplicate duplicate' : Site}
    (h : FirstRepeat sources id first duplicate) (h' : FirstRepeat sources id' first' duplicate') :
    id = id' ∧ first = first' ∧ duplicate = duplicate' := by
  obtain ⟨item, hitem, rfl⟩ := h.repeats.declares_duplicate
  obtain ⟨item', hitem', rfl⟩ := h'.repeats.declares_duplicate
  -- neither repetition comes before the other, and so they are the same declaration
  have hduplicate : duplicate = duplicate' ∧ item = item' := by
    rcases duplicate.before_trichotomy duplicate' with hbefore | hafter | hsame
    · exact absurd hbefore (h'.duplicate_earliest _ _ _ h.repeats)
    · exact absurd hafter (h.duplicate_earliest _ _ _ h'.repeats)
    · exact hitem.unique hitem' hsame
  obtain ⟨rfl, rfl⟩ := hduplicate
  obtain ⟨a, ha, haid⟩ := h.repeats.declares_first
  obtain ⟨b, hb, hbid⟩ := h'.repeats.declares_first
  have hfirst : first = first' := by
    rcases first.before_trichotomy first' with hbefore | hafter | hsame
    · exact absurd hbefore (h'.first_earliest _ _ ha haid)
    · exact absurd hafter (h.first_earliest _ _ hb hbid)
    · exact (ha.unique hb hsame).1
  exact ⟨rfl, hfirst, rfl⟩

/-- Where a name is repeated, names are not distinct. -/
theorem Repeats.not_nodup {id : Ident} {first duplicate : Site}
    (h : Repeats sources id first duplicate) :
    ¬ ((declaredItems sources).map Item.id).Nodup := by
  rw [← sitedIds_sitedDeclarations]
  intro hnodup
  obtain ⟨x, hx, hxid⟩ := h.declares_first
  obtain ⟨y, hy, hyid⟩ := h.declares_duplicate
  have heq := List.inj_on_of_nodup_map hnodup (mem_sitedDeclarations.2 hx)
    (mem_sitedDeclarations.2 hy) (hxid.trans hyid.symm)
  cases heq
  exact h.before.asymm h.before

/-- Building refuses the first repetition of a name, or else makes a model of the declarations. -/
theorem build_cases (sources : List Source) :
    (∃ id first duplicate, FirstRepeat sources id first duplicate ∧
      (Model.build sources).value = .error (.duplicateId id first duplicate)) ∨
    (((declaredItems sources).map Item.id).Nodup ∧
      (Model.build sources).value = Model.ofItems (declaredItems sources)) := by
  rw [value_build]
  cases hadded : addDistinct [] (sitedDeclarations sources) with
  | error error =>
    obtain ⟨before, duplicate, after, first, hlist, hdistinct, hfirst, rfl⟩ :=
      addDistinct_eq_error hadded List.nodup_nil
    exact Or.inl ⟨_, _, _, firstRepeat_of_split hlist hdistinct hfirst, rfl⟩
  | ok merged =>
    obtain ⟨rfl, hnodup⟩ := addDistinct_eq_ok hadded List.nodup_nil
    rw [List.nil_append, sitedIds_sitedDeclarations] at hnodup
    refine Or.inr ⟨hnodup, ?_⟩
    rw [List.nil_append, ← map_item_sitedDeclarations]
    rfl

/-- Where names are distinct, building makes a model of the declarations or refuses a circle. -/
theorem build_of_nodup (hnodup : ((declaredItems sources).map Item.id).Nodup) :
    (Model.build sources).value = Model.ofItems (declaredItems sources) := by
  rcases build_cases sources with ⟨id, first, duplicate, hfirst, -⟩ | ⟨-, hvalue⟩
  · exact absurd hnodup hfirst.repeats.not_nodup
  · exact hvalue

/-- A model of items is refused when a circle is found, and only then. -/
theorem ofItems_cases (items : List Item) :
    (∃ path, Model.ofItems items = .error (.containmentCycle path) ∧
      ∃ id, LeadsTo (Model.assemble items).parent? id id) ∨
    (∃ built, Model.ofItems items = .ok built ∧
      ∀ id, ¬ LeadsTo (Model.assemble items).parent? id id) := by
  cases hresult : Model.ofItems items with
  | ok built =>
    obtain ⟨-, hcycle⟩ := Model.ofItems_eq_ok hresult
    exact Or.inr ⟨built, rfl, acyclic_of_findCycle hcycle⟩
  | error error =>
    obtain ⟨path, rfl, hcycle⟩ := Model.ofItems_eq_error hresult
    exact Or.inl ⟨path, rfl, Containment.exists_leadsTo_of_findCycle hcycle⟩

/-- An element lies inside itself exactly when going from holder to holder returns to it. -/
theorem transGen_heldBy_iff {items : List Item} {id : Ident} :
    Relation.TransGen (HeldBy items) id id ↔ LeadsTo (Model.assemble items).parent? id id := by
  have hheld : HeldBy items = fun child parent =>
      (Model.assemble items).parent? child = some parent := by
    funext child parent
    exact propext parent?_assemble_iff.symm
  rw [leadsTo_iff_transGen, hheld]

/-- Building fails with the first repetition of a name, or, where names are distinct, with a circle
if an element lies inside itself, and otherwise it makes a model. -/
theorem buildEnds (sources : List Source) : BuildEnds sources := by
  rcases build_cases sources with ⟨id, first, duplicate, hfirst, hvalue⟩ | ⟨hnodup, hvalue⟩
  · have hnot := hfirst.repeats.not_nodup
    refine ⟨fun id' first' duplicate' => ?_, iff_of_true ⟨_, _, _, hvalue⟩ hnot,
      iff_of_false (by simp [hvalue]) fun h => hnot h.1,
      iff_of_false (by simp [hvalue]) fun h => hnot h.1⟩
    rw [hvalue]
    constructor
    · rintro ⟨⟩
      exact hfirst
    · intro hfirst'
      obtain ⟨rfl, rfl, rfl⟩ := hfirst.unique hfirst'
      rfl
  · -- no name is repeated, and the containment decides
    have hrepeat : ∀ id first duplicate, ¬ FirstRepeat sources id first duplicate :=
      fun _ _ _ h => h.repeats.not_nodup hnodup
    have hheld : (∃ id, Relation.TransGen (HeldBy (declaredItems sources)) id id) ↔
        ∃ id, LeadsTo (Model.assemble (declaredItems sources)).parent? id id :=
      exists_congr fun _ => transGen_heldBy_iff
    rcases ofItems_cases (declaredItems sources) with
      ⟨path, hresult, hcycle⟩ | ⟨built, hresult, hacyclic⟩
    · rw [hresult] at hvalue
      exact
        { duplicateId_iff := fun _ _ _ => iff_of_false (by simp [hvalue]) (hrepeat _ _ _)
          exists_duplicateId_iff := iff_of_false (by simp [hvalue]) (not_not.2 hnodup)
          exists_containmentCycle_iff := iff_of_true ⟨path, hvalue⟩ ⟨hnodup, hheld.2 hcycle⟩
          exists_built_iff := iff_of_false (by simp [hvalue]) fun h => h.2 (hheld.2 hcycle) }
    · rw [hresult] at hvalue
      have hnone := mt hheld.1 (not_exists.2 hacyclic)
      exact
        { duplicateId_iff := fun _ _ _ => iff_of_false (by simp [hvalue]) (hrepeat _ _ _)
          exists_duplicateId_iff := iff_of_false (by simp [hvalue]) (not_not.2 hnodup)
          exists_containmentCycle_iff := iff_of_false (by simp [hvalue]) fun h => hnone h.2
          exists_built_iff := iff_of_true ⟨built, hvalue⟩ ⟨hnodup, hnone⟩ }

end Viewpoint
