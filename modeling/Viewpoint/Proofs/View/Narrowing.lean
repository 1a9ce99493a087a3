import Viewpoint.Proofs.View.Copies

/-!
# Filters one after the other

A filtered view may filter a filtered view. Each filter prunes the relations that lose an end to it
alone; an element that one of the filters takes out is there until that filter comes, so the filters
together leave the relations that lose no end to any of them. What a chain of filters leaves is
therefore one condition on the entries at its end, in which the order of the filters and repetitions
do not matter.

* `Remains` is the condition, and `filter_remains_filter` says that it holds of filters one after
  the other as it holds of each.
* `ViewSet.Narrows` says that a view filters another one through a chain of filtered views.
* `compose_of_narrows` says what the view shows of the other one.
-/

namespace Viewpoint

namespace TagFilter

/-- A filter admits the items that have one of its tags, or those that have none of them. -/
def Admits (filter : TagFilter) (item : Item) : Prop :=
  match filter.mode with
  | .keep => ∃ tag ∈ filter.tags, item.hasTag tag = true
  | .drop => ∀ tag ∈ filter.tags, item.hasTag tag = false

/-- The items that pass a filter are those that it admits. -/
theorem passes_iff {filter : TagFilter} {item : Item} :
    filter.passes item = true ↔ filter.Admits item := by
  rw [passes, Admits]
  cases filter.mode with
  | keep => simp
  | drop => simp

instance (filter : TagFilter) (item : Item) : Decidable (filter.Admits item) :=
  decidable_of_iff _ passes_iff

end TagFilter

/-- An entry is left by filters: all of them admit it and, where dangling relations are pruned and
it is a relation, also those of its ends that are among the entries. -/
structure Remains (filters : List TagFilter) (prune : Bool) (entries : List Entry)
    (entry : Entry) : Prop where
  /-- All filters admit the entry. -/
  admitted : ∀ filter ∈ filters, filter.Admits entry.item
  /-- All filters admit the ends of a relation that are elements among the entries. -/
  ends_admitted : prune = true → ∀ r, entry.item = .relation r → ∀ other ∈ entries, ∀ e,
    other.item = .element e → r.touches e.id = true → ∀ filter ∈ filters, filter.Admits other.item

/-- Whether an entry is left by filters. -/
def remains (filters : List TagFilter) (prune : Bool) (entries : List Entry) (entry : Entry) :
    Bool :=
  filters.all (·.passes entry.item) &&
    (!prune || entry.item.relation?.all fun r => entries.all fun other =>
      !(other.item.element?.any fun e => r.touches e.id) || filters.all (·.passes other.item))

section Remains

variable {filter : TagFilter} {filters filters' : List TagFilter} {prune : Bool}
  {entries entries' : List Entry} {entry : Entry}

/-- No filter leaves an element out that all of them admit. -/
theorem remains_of_element {e : Element} (he : entry.item = .element e) :
    Remains filters prune entries entry ↔ ∀ filter ∈ filters, filter.Admits entry.item := by
  refine ⟨Remains.admitted, fun hadmitted => ⟨hadmitted, ?_⟩⟩
  intro _ r hr
  rw [he] at hr
  cases hr

/-- Where dangling relations are not pruned, the ends do not matter. -/
theorem remains_false :
    Remains filters false entries entry ↔ ∀ filter ∈ filters, filter.Admits entry.item :=
  ⟨Remains.admitted, fun hadmitted => ⟨hadmitted, fun hprune => by cases hprune⟩⟩

/-- Where dangling relations are pruned, the ends of a relation matter. -/
theorem remains_true_of_relation {r : Relation} (hr : entry.item = .relation r) :
    Remains filters true entries entry ↔ (∀ filter ∈ filters, filter.Admits entry.item) ∧
      ∀ other ∈ entries, ∀ e, other.item = .element e → r.touches e.id = true →
        ∀ filter ∈ filters, filter.Admits other.item := by
  constructor
  · rintro ⟨hadmitted, hends⟩
    exact ⟨hadmitted, hends rfl r hr⟩
  · rintro ⟨hadmitted, hends⟩
    refine ⟨hadmitted, fun _ r' hr' => ?_⟩
    rw [hr] at hr'
    cases hr'
    exact hends

/-- The test is the condition. -/
theorem remains_iff : remains filters prune entries entry = true ↔
    Remains filters prune entries entry := by
  have hadmitted : ∀ {item : Item}, filters.all (·.passes item) = true ↔
      ∀ filter ∈ filters, filter.Admits item := by
    intro item
    simp only [List.all_eq_true, TagFilter.passes_iff]
  -- the cases are those in which the ends matter: pruning is on and the entry is a relation
  rw [remains, Bool.and_eq_true, hadmitted]
  cases prune with
  | false => simp [remains_false]
  | true =>
    cases hitem : entry.item with
    | element e => simp [remains_of_element hitem, hitem, Item.relation?]
    | relation r =>
      rw [remains_true_of_relation hitem, hitem, Item.relation?, Bool.not_true, Bool.false_or,
        Option.all_some, List.all_eq_true]
      refine and_congr_right fun _ => forall₂_congr fun other _ => ?_
      rw [Bool.or_eq_true, hadmitted]
      cases other.item with
      | element e => cases htouches : r.touches e.id <;> simp [Item.element?, htouches]
      | relation r' => simp [Item.element?]

instance : DecidablePred (Remains filters prune entries) :=
  fun _ => decidable_of_iff _ remains_iff

/-- The elements that a filter takes out. -/
theorem mem_lostElements {id : Ident} : id ∈ filter.lostElements entries ↔
    ∃ other ∈ entries, ∃ e, other.item = .element e ∧ e.id = id ∧ ¬ filter.Admits other.item := by
  rw [TagFilter.lostElements, List.mem_map]
  constructor
  · rintro ⟨other, hother, rfl⟩
    rw [List.mem_filter, Bool.and_eq_true, Bool.not_eq_true'] at hother
    obtain ⟨hmem, helement, hpasses⟩ := hother
    refine ⟨other, hmem, ?_⟩
    rw [← TagFilter.passes_iff, hpasses]
    cases hitem : other.item with
    | element e => exact ⟨e, rfl, rfl, Bool.false_ne_true⟩
    | relation r => simp [hitem, Item.isElement] at helement
  · rintro ⟨other, hmem, e, he, rfl, hadmits⟩
    rw [← TagFilter.passes_iff, Bool.not_eq_true] at hadmits
    refine ⟨other, ?_, by rw [he]; rfl⟩
    rw [List.mem_filter, hadmits, he]
    exact ⟨hmem, rfl⟩

/-- A relation loses no end to a filter that admits its ends. -/
theorem notMem_lostElements_iff {r : Relation} :
    r.source ∉ filter.lostElements entries ∧ r.target ∉ filter.lostElements entries ↔
      ∀ other ∈ entries, ∀ e, other.item = .element e → r.touches e.id = true →
        filter.Admits other.item := by
  rw [mem_lostElements, mem_lostElements]
  constructor
  · rintro ⟨hsource, htarget⟩ other hother e he htouches
    by_contra hadmits
    rw [Relation.touches, Bool.or_eq_true, decide_eq_true_iff, decide_eq_true_iff] at htouches
    rcases htouches with heq | heq
    · exact hsource ⟨other, hother, e, he, heq.symm, hadmits⟩
    · exact htarget ⟨other, hother, e, he, heq.symm, hadmits⟩
  · intro hends
    constructor
    · rintro ⟨other, hother, e, he, heq, hadmits⟩
      exact hadmits (hends other hother e he (by simp [Relation.touches, heq]))
    · rintro ⟨other, hother, e, he, heq, hadmits⟩
      exact hadmits (hends other hother e he (by simp [Relation.touches, heq]))

/-- Narrowing by a filter leaves what this one filter leaves. -/
theorem narrow_eq_filter (filter : TagFilter) (prune : Bool) (entries : List Entry) :
    filter.narrow prune entries = entries.filter (Remains [filter] prune entries ·) := by
  rw [TagFilter.narrow]
  refine List.filter_congr fun entry _ => ?_
  rw [Bool.eq_iff_iff, decide_eq_true_iff, Bool.and_eq_true, TagFilter.passes_iff]
  cases hitem : entry.item with
  | element e => simp [remains_of_element hitem, hitem]
  | relation r =>
    rw [Bool.and_eq_true, Bool.not_eq_true', Bool.not_eq_true', List.contains_eq_mem,
      List.contains_eq_mem, decide_eq_false_iff_not, decide_eq_false_iff_not, ← hitem]
    cases prune with
    | false => simp [remains_false]
    | true =>
      rw [remains_true_of_relation hitem, if_pos rfl, notMem_lostElements_iff]
      simp

/-- What many filters leave of many entries, fewer filters leave of fewer entries. -/
theorem Remains.mono (h : Remains filters prune entries entry) (hfilters : filters' ⊆ filters)
    (hentries : entries' ⊆ entries) : Remains filters' prune entries' entry where
  admitted filter hfilter := h.admitted filter (hfilters hfilter)
  ends_admitted hprune r hr other hother e he htouches filter hfilter :=
    h.ends_admitted hprune r hr other (hentries hother) e he htouches filter (hfilters hfilter)

/-- Filters one after the other leave what all of them leave at once. -/
theorem filter_remains_filter :
    (entries.filter (Remains filters prune entries ·)).filter
        (Remains filters' prune (entries.filter (Remains filters prune entries ·)) ·) =
      entries.filter (Remains (filters' ++ filters) prune entries ·) := by
  rw [List.filter_filter]
  refine List.filter_congr fun entry hentry => ?_
  rw [Bool.eq_iff_iff, Bool.and_eq_true, decide_eq_true_iff, decide_eq_true_iff,
    decide_eq_true_iff]
  constructor
  · rintro ⟨hlater, hearlier⟩
    refine ⟨List.forall_mem_append.2 ⟨hlater.admitted, hearlier.admitted⟩, ?_⟩
    intro hprune r hr other hother e he htouches
    have hadmitted := hearlier.ends_admitted hprune r hr other hother e he htouches
    -- an element that the earlier filters admit is still there when the later ones come, so if
    -- these take it out, they also prune the relation
    have hleft : other ∈ entries.filter (Remains filters prune entries ·) :=
      List.mem_filter.2 ⟨hother, decide_eq_true ((remains_of_element he).2 hadmitted)⟩
    exact List.forall_mem_append.2
      ⟨hlater.ends_admitted hprune r hr other hleft e he htouches, hadmitted⟩
  · intro h
    exact ⟨h.mono (List.subset_append_left _ _) List.filter_sublist.subset,
      h.mono (List.subset_append_right _ _) (List.Subset.refl _)⟩

/-- Only which filters there are matters, neither their order nor how often they come. -/
theorem remains_congr (h : ∀ filter, filter ∈ filters ↔ filter ∈ filters') :
    Remains filters prune entries entry ↔ Remains filters' prune entries entry :=
  ⟨fun hleft => hleft.mono (fun filter => (h filter).2) (List.Subset.refl _),
    fun hleft => hleft.mono (fun filter => (h filter).1) (List.Subset.refl _)⟩

end Remains

namespace ViewSet

variable {set set' : ViewSet} {model : Model} {settings : Settings} {root id : Ident}
  {rootView : View} {filters : List TagFilter} {base : Content}

/-- A view filters another one through a chain of filtered views, none of which is a custom one. The
filters are listed from the view on. -/
inductive Narrows (set : ViewSet) (root : Ident) : Ident → List TagFilter → Prop
  /-- The chain without filters. -/
  | refl : Narrows set root root []
  /-- One more filtered view. -/
  | step {id base : Ident} {view : View} {filter : TagFilter} {filters : List TagFilter}
      (hview : set.find? id = some view) (hkind : view.kind ≠ .modeled .custom)
      (hbody : view.body = .filtered base filter) (hbase : Narrows set root base filters) :
      Narrows set root id (filter :: filters)

/-- A chain of filtered views is a walk of bases. -/
theorem Narrows.endsAtRoot (h : set.Narrows root id filters)
    (hroot : set.find? root = some rootView) (hbody : rootView.body.base? = none) :
    ∃ n, set.EndsAtRoot id n := by
  induction h with
  | refl => exact ⟨0, root, rootView, walk_zero, hroot, hbody⟩
  | step hview _ hfiltered _ ih =>
    obtain ⟨n, last, lastView, hlast, hlastView, hlastBody⟩ := ih
    refine ⟨n + 1, last, lastView, ?_, hlastView, hlastBody⟩
    rw [walk_succ, base?_of_filtered hview hfiltered, Option.bind_some, hlast]

/-- A view shows of another one what the filters between them leave. -/
theorem exists_content_of_narrows (h : set.Narrows root id filters)
    (hroot : set.find? root = some rootView) (hbody : rootView.body.base? = none)
    (hok : (set.compose model settings root).value = .ok base) :
    ∃ content, (set.compose model settings id).value = .ok content ∧
      content.entries = base.entries.filter
        (Remains filters settings.compose.pruneDanglingRelations base.entries ·) := by
  -- by induction on the chain: one more view is one more filter in front of the others
  induction h with
  | refl =>
    refine ⟨base, hok, (List.filter_eq_self.2 fun entry _ => ?_).symm⟩
    exact decide_eq_true ⟨by simp, by simp⟩
  | @step id next view filter filters hview hkind hfiltered hnext ih =>
    obtain ⟨n, hends⟩ := (Narrows.step hview hkind hfiltered hnext).endsAtRoot hroot hbody
    obtain ⟨content, hcontent, hentries⟩ := ih
    have hcompose := compose_of_base_ok hview hfiltered hends.walkEnds hcontent
    rw [finishContent_of_no_offender (if_neg hkind)] at hcompose
    refine ⟨_, hcompose, ?_⟩
    rw [entries_ofEntries, narrow_eq_filter, hentries, filter_remains_filter,
      List.singleton_append]

/-- A view that filters nothing composes alike in all sets that have it. -/
theorem compose_root_congr (hroot : set.find? root = some rootView)
    (hroot' : set'.find? root = some rootView) (hbody : rootView.body.base? = none) :
    (set'.compose model settings root).value = (set.compose model settings root).value := by
  rw [compose_of_root hroot' hbody, compose_of_root hroot hbody, entriesOf_of_root hroot' hbody,
    entriesOf_of_root hroot hbody]

/-- The items of a view that composes are its entries, each with its place. -/
theorem items_of_ok {content : Content}
    (hok : (set.compose model settings id).value = .ok content) :
    content.items = content.entries.mapIdx fun index entry => { entry with index } := by
  obtain ⟨view, layout, warnings, -, -, hcontent⟩ := content_of_ok hok
  rw [hcontent, entries_ofEntries]
  rfl

/-- Through a chain of filters, a view shows of another one the entries that satisfy all of them
and, where dangling relations are pruned, lose no end to any of them, in the same order. Any other
chain of the same filters, in whatever order and however often they come, leaves the same items. -/
theorem compose_of_narrows (hchain : set.Narrows root id filters)
    (hroot : set.find? root = some rootView) (hbody : rootView.body.base? = none)
    (hok : (set.compose model settings root).value = .ok base) :
    ∃ content, (set.compose model settings id).value = .ok content ∧
      content.entries = base.entries.filter
        (Remains filters settings.compose.pruneDanglingRelations base.entries ·) ∧
      ∀ (set' : ViewSet) (id' : Ident) (filters' : List TagFilter),
        set'.Narrows root id' filters' → set'.find? root = some rootView →
        (∀ filter, filter ∈ filters' ↔ filter ∈ filters) →
        ∃ content', (set'.compose model settings id').value = .ok content' ∧
          content'.items = content.items := by
  obtain ⟨content, hcontent, hentries⟩ := exists_content_of_narrows hchain hroot hbody hok
  refine ⟨content, hcontent, hentries, ?_⟩
  intro set' id' filters' hchain' hroot' hsame
  -- both chains end at the same view, which shows the same in both sets
  have hok' : (set'.compose model settings root).value = .ok base := by
    rw [compose_root_congr hroot hroot' hbody, hok]
  obtain ⟨content', hcontent', hentries'⟩ := exists_content_of_narrows hchain' hroot' hbody hok'
  refine ⟨content', hcontent', ?_⟩
  have hequal : content'.entries = content.entries := by
    rw [hentries', hentries]
    exact List.filter_congr fun entry _ => decide_eq_decide.2 (remains_congr hsame)
  rw [items_of_ok hcontent', items_of_ok hcontent, hequal]

/-- Two filters of a list, of which the second takes out the store and the relation to it. -/
theorem narrows_depotViews :
    ∃ built base content, (Model.build depotSources).value = .ok built ∧
      (depotViews.compose built.model {} ⟨"all"⟩).value = .ok base ∧
      base.ids = [⟨"db"⟩, ⟨"api-to-db"⟩, ⟨"api"⟩] ∧
      (depotViews.compose built.model {} ⟨"unstored"⟩).value = .ok content ∧
      content.entries = base.entries.filter
        (Remains [⟨.drop, ["storage"]⟩, ⟨.keep, ["backend"]⟩] true base.entries ·) := by
  have hbase : ∃ built base, (Model.build depotSources).value = .ok built ∧
      (depotViews.compose built.model {} ⟨"all"⟩).value = .ok base ∧
      base.ids = [⟨"db"⟩, ⟨"api-to-db"⟩, ⟨"api"⟩] := exists_content_of_ids (by decide +kernel)
  obtain ⟨built, base, hbuilt, hok, hids⟩ := hbase
  have hchain : depotViews.Narrows ⟨"all"⟩ ⟨"unstored"⟩
      [⟨.drop, ["storage"]⟩, ⟨.keep, ["backend"]⟩] :=
    .step rfl (by decide) rfl (.step rfl (by decide) rfl .refl)
  obtain ⟨content, hcontent, hentries, -⟩ := compose_of_narrows hchain rfl rfl hok
  exact ⟨built, base, content, hbuilt, hok, hids, hcontent, hentries⟩

end ViewSet

end Viewpoint
