import Viewpoint.Proofs.Model.Refusal

/-!
# The boundaries of sources

Sources are merged one declaration after the other, so it does not matter where one source ends and
the next one begins, nor what they are called. Whatever sources the same declarations are spread
over, the same model is built with the same warnings, or building fails for the same reason. Only a
repeated name is reported with places that are told by source; but these are the places of the same
declarations.

* `Site.Denotes` says which of all declarations stands at a place, and `denotes_iff` finds it in the
  list of declarations with their places.
* `SamePlace` relates the places of one declaration in two lists of sources.
* `BuildsAlike` says that building two lists of sources ends alike, and
  `buildsAlike_of_declaredItems` that it does so when they have the same declarations.
-/

namespace Viewpoint

/-- A site is the place of the `n`-th of all declarations: as many stand before it, in the sources
before its own one and in this one. -/
def Site.Denotes (sources : List Source) (site : Site) (n : Nat) : Prop :=
  ∃ before source after, sources = before ++ source :: after ∧
    site.sourceIndex = before.length ∧ site.source = source.name ∧
    site.position < source.items.length ∧ n = (declaredItems before).length + site.position

/-- In two lists of sources, two sites are the places of the same one of all declarations. -/
def SamePlace (sources sources' : List Source) (site site' : Site) : Prop :=
  ∃ n, site.Denotes sources n ∧ site'.Denotes sources' n

/-- Building two lists of sources ends in the same way. -/
inductive BuildsAlike (sources sources' : List Source) : Prop
  /-- Both give the same model with the same warnings. -/
  | built (built : Built) (h : (Model.build sources).value = .ok built)
    (h' : (Model.build sources').value = .ok built)
  /-- Both are refused for the same circle. -/
  | containmentCycle (path : List Ident)
    (h : (Model.build sources).value = .error (.containmentCycle path))
    (h' : (Model.build sources').value = .error (.containmentCycle path))
  /-- Both are refused for the same name, and for the same two declarations of it. -/
  | duplicateId (id : Ident) (first first' duplicate duplicate' : Site)
    (h : (Model.build sources).value = .error (.duplicateId id first duplicate))
    (h' : (Model.build sources').value = .error (.duplicateId id first' duplicate'))
    (hfirst : SamePlace sources sources' first first')
    (hduplicate : SamePlace sources sources' duplicate duplicate')

variable {sources sources' : List Source} {site site' : Site} {item : Item} {i j n : Nat}

/-- Every place of a declaration is that of one of all declarations. -/
theorem DeclaresAt.exists_denotes (h : DeclaresAt sources site item) :
    ∃ n, site.Denotes sources n := by
  obtain ⟨source, hsource, hname, hitem⟩ := h
  obtain ⟨hindex, rfl⟩ := List.getElem?_eq_some_iff.1 hsource
  obtain ⟨hposition, -⟩ := List.getElem?_eq_some_iff.1 hitem
  refine ⟨_, sources.take site.sourceIndex, _, sources.drop (site.sourceIndex + 1), ?_, ?_,
    hname.symm, hposition, rfl⟩
  · rw [← List.drop_eq_getElem_cons hindex, List.take_append_drop]
  · rw [List.length_take, Nat.min_eq_left hindex.le]

/-- The declarations of a source stand behind those of the sources before it. -/
theorem sitedDeclarations_append_cons (before : List Source) (source : Source)
    (after : List Source) : ∃ rest, sitedDeclarations (before ++ source :: after) =
      sitedDeclarations before ++ (source.sited before.length ++ rest) := by
  refine ⟨(after.zipIdx (before.length + 1)).flatMap fun entry => entry.1.sited entry.2, ?_⟩
  rw [sitedDeclarations, List.zipIdx_append, List.zipIdx_cons, List.flatMap_append,
    List.flatMap_cons, Nat.zero_add]
  rfl

theorem length_sitedDeclarations (sources : List Source) :
    (sitedDeclarations sources).length = (declaredItems sources).length := by
  rw [← map_item_sitedDeclarations, List.length_map]

/-- The declaration that a site denotes is listed with this site. -/
theorem Site.Denotes.exists_getElem? (h : site.Denotes sources n) :
    ∃ item, (sitedDeclarations sources)[n]? = some ⟨item, site⟩ := by
  obtain ⟨before, source, after, rfl, hindex, hname, hposition, rfl⟩ := h
  obtain ⟨rest, hsplit⟩ := sitedDeclarations_append_cons before source after
  have hlength : site.position < (source.sited before.length).length := by
    rwa [Source.sited, List.length_mapIdx]
  refine ⟨source.items[site.position], ?_⟩
  rw [hsplit, ← length_sitedDeclarations, List.getElem?_append_right (Nat.le_add_right _ _),
    Nat.add_sub_cancel_left, List.getElem?_append_left hlength, Source.sited,
    List.getElem?_mapIdx, List.getElem?_eq_getElem hposition, Option.map_some, ← hname, ← hindex]

/-- In the list of all declarations they follow each other as their places do. -/
theorem before_iff_lt {a b : Sited} (ha : (sitedDeclarations sources)[i]? = some a)
    (hb : (sitedDeclarations sources)[j]? = some b) : a.site.Before b.site ↔ i < j := by
  obtain ⟨hi, rfl⟩ := List.getElem?_eq_some_iff.1 ha
  obtain ⟨hj, rfl⟩ := List.getElem?_eq_some_iff.1 hb
  have hpairwise := List.pairwise_iff_getElem.1 (pairwise_sitedDeclarations sources)
  refine ⟨fun hbefore => ?_, hpairwise i j hi hj⟩
  rcases Nat.lt_trichotomy i j with hlt | rfl | hgt
  · exact hlt
  · exact absurd hbefore hbefore.asymm
  · exact absurd (hpairwise j i hj hi hgt) hbefore.asymm

/-- A site denotes the declaration that is listed with it. -/
theorem denotes_iff :
    site.Denotes sources n ↔ ∃ item, (sitedDeclarations sources)[n]? = some ⟨item, site⟩ := by
  refine ⟨Site.Denotes.exists_getElem?, ?_⟩
  rintro ⟨item, hitem⟩
  obtain ⟨m, hm⟩ := (mem_sitedDeclarations.1 (List.mem_of_getElem? hitem)).exists_denotes
  obtain ⟨other, hother⟩ := hm.exists_getElem?
  -- no other declaration is listed with the same site
  have hnot : ¬ site.Before site := fun hbefore => hbefore.asymm hbefore
  obtain rfl : m = n := Nat.le_antisymm
    (Nat.not_lt.1 fun hlt => hnot ((before_iff_lt hitem hother).2 hlt))
    (Nat.not_lt.1 fun hlt => hnot ((before_iff_lt hother hitem).2 hlt))
  exact hm

/-- What is declared at a site is the declaration that the site denotes. -/
theorem declaresAt_iff : DeclaresAt sources site item ↔
    ∃ n, site.Denotes sources n ∧ (declaredItems sources)[n]? = some item := by
  rw [← mem_sitedDeclarations, ← map_item_sitedDeclarations]
  constructor
  · intro hmem
    obtain ⟨n, hn⟩ := List.mem_iff_getElem?.1 hmem
    exact ⟨n, denotes_iff.2 ⟨item, hn⟩, by rw [List.getElem?_map, hn, Option.map_some]⟩
  · rintro ⟨n, hdenotes, hitem⟩
    obtain ⟨other, hother⟩ := denotes_iff.1 hdenotes
    rw [List.getElem?_map, hother] at hitem
    cases hitem
    exact List.mem_of_getElem? hother

namespace SamePlace

theorem symm (h : SamePlace sources sources' site site') :
    SamePlace sources' sources site' site := by
  obtain ⟨n, hn, hn'⟩ := h
  exact ⟨n, hn', hn⟩

/-- Places of the same declarations follow each other alike. -/
theorem before_iff {a a' b b' : Site} (ha : SamePlace sources sources' a a')
    (hb : SamePlace sources sources' b b') : a'.Before b' ↔ a.Before b := by
  obtain ⟨i, hi, hi'⟩ := ha
  obtain ⟨j, hj, hj'⟩ := hb
  obtain ⟨x, hx⟩ := hi.exists_getElem?
  obtain ⟨x', hx'⟩ := hi'.exists_getElem?
  obtain ⟨y, hy⟩ := hj.exists_getElem?
  obtain ⟨y', hy'⟩ := hj'.exists_getElem?
  exact (before_iff_lt hx' hy').trans (before_iff_lt hx hy).symm

end SamePlace

section Regrouping

variable (hitems : declaredItems sources' = declaredItems sources)

include hitems

/-- What is declared at a place in one list of sources is declared at such a place in the other. -/
theorem DeclaresAt.exists_samePlace (h : DeclaresAt sources site item) :
    ∃ site', SamePlace sources sources' site site' ∧ DeclaresAt sources' site' item := by
  obtain ⟨n, hdenotes, hitem⟩ := declaresAt_iff.1 h
  rw [← hitems, ← map_item_sitedDeclarations, List.getElem?_map, Option.map_eq_some_iff] at hitem
  obtain ⟨⟨item, site'⟩, hsited, rfl⟩ := hitem
  exact ⟨site', ⟨n, hdenotes, denotes_iff.2 ⟨item, hsited⟩⟩,
    mem_sitedDeclarations.1 (List.mem_of_getElem? hsited)⟩

theorem Repeats.exists_samePlace {id : Ident} {first duplicate : Site}
    (h : Repeats sources id first duplicate) : ∃ first' duplicate',
      SamePlace sources sources' first first' ∧ SamePlace sources sources' duplicate duplicate' ∧
        Repeats sources' id first' duplicate' := by
  obtain ⟨x, hx, hxid⟩ := h.declares_first
  obtain ⟨y, hy, hyid⟩ := h.declares_duplicate
  obtain ⟨first', hfirst, hx'⟩ := hx.exists_samePlace hitems
  obtain ⟨duplicate', hduplicate, hy'⟩ := hy.exists_samePlace hitems
  exact ⟨first', duplicate', hfirst, hduplicate, ⟨x, hx', hxid⟩, ⟨y, hy', hyid⟩,
    (hfirst.before_iff hduplicate).2 h.before⟩

/-- The first repetition of a name is the same. -/
theorem FirstRepeat.exists_samePlace {id : Ident} {first duplicate : Site}
    (h : FirstRepeat sources id first duplicate) : ∃ first' duplicate',
      SamePlace sources sources' first first' ∧ SamePlace sources sources' duplicate duplicate' ∧
        FirstRepeat sources' id first' duplicate' := by
  obtain ⟨first', duplicate', hfirst, hduplicate, hrepeats⟩ := h.repeats.exists_samePlace hitems
  refine ⟨first', duplicate', hfirst, hduplicate, hrepeats, ?_, ?_⟩
  -- an earlier repetition would be one in the first list, too
  · intro other earlier' later' hother hbefore
    obtain ⟨earlier, later, -, hlater, hother'⟩ := hother.exists_samePlace hitems.symm
    exact h.duplicate_earliest other earlier later hother'
      ((hlater.before_iff hduplicate.symm).2 hbefore)
  · intro site' item hdeclares hid hbefore
    obtain ⟨site, hsite, hdeclares'⟩ := hdeclares.exists_samePlace hitems.symm
    exact h.first_earliest site item hdeclares' hid ((hsite.before_iff hfirst.symm).2 hbefore)

end Regrouping

/-- Building ends alike for all sources that the same declarations are spread over. -/
theorem buildsAlike_of_declaredItems (hitems : declaredItems sources' = declaredItems sources) :
    BuildsAlike sources sources' := by
  rcases build_cases sources with ⟨id, first, duplicate, hrepeat, hvalue⟩ | ⟨hnodup, hvalue⟩
  · obtain ⟨first', duplicate', hfirst, hduplicate, hrepeat'⟩ := hrepeat.exists_samePlace hitems
    rcases build_cases sources' with ⟨other, earlier, later, hother, hvalue'⟩ | ⟨hnodup', -⟩
    · obtain ⟨rfl, rfl, rfl⟩ := hrepeat'.unique hother
      exact .duplicateId id first first' duplicate duplicate' hvalue hvalue' hfirst hduplicate
    · exact absurd hnodup' hrepeat'.repeats.not_nodup
  · -- no name is repeated, and what is built is made of the declarations alone
    have hvalue' : (Model.build sources').value = Model.ofItems (declaredItems sources) := by
      rw [build_of_nodup (hitems ▸ hnodup), hitems]
    rcases ofItems_cases (declaredItems sources) with ⟨path, hpath, -⟩ | ⟨built, hbuilt, -⟩
    · exact .containmentCycle path (hvalue.trans hpath) (hvalue'.trans hpath)
    · exact .built built (hvalue.trans hbuilt) (hvalue'.trans hbuilt)

/-- A name that is declared inside another element and again in a later source. -/
def spreadSources : List Source :=
  [{ name := "shop"
     decls :=
      [.element (.node { id := "shop", kind := .modeled .system, owner := some "acme" }
        [.node { id := "shop/web", kind := .modeled .container, owner := some "acme" } []])] },
    { name := "empty" },
    { name := "web"
      decls := [.element (.node { id := "shop/web", kind := .modeled .container } [])] }]

/-- The same declarations in one source without a name, none of them nested. -/
def joinedSources : List Source :=
  [{ decls := (declaredItems spreadSources).map Item.decl }]

/-- Both are refused for the name, each with its own places. -/
theorem buildsAlike_spreadSources :
    declaredItems joinedSources = declaredItems spreadSources ∧
      (Model.build spreadSources).value =
        .error (.duplicateId ⟨"shop/web"⟩ ⟨"shop", 0, 1⟩ ⟨"web", 2, 0⟩) ∧
      (Model.build joinedSources).value =
        .error (.duplicateId ⟨"shop/web"⟩ ⟨"", 0, 1⟩ ⟨"", 0, 2⟩) ∧
      BuildsAlike spreadSources joinedSources := by
  have hitems : declaredItems joinedSources = declaredItems spreadSources :=
    declaredItems_map_decl "" _
  exact ⟨hitems, rfl, rfl, buildsAlike_of_declaredItems hitems⟩

end Viewpoint
