import Viewpoint.Proofs.View.Narrowing

/-!
# With pruning and without

A setting says whether relations that lose an end to a filter are pruned. Elements are filtered by
their tags alone, so the setting does not decide which elements a view shows. As it is for its
elements that a custom view is refused, the setting does not decide either whether a view composes
and what its failure says, however many filters are on its base chain. What it decides are relations
only, and of these exactly those that have an end among the elements at the end of the chain which
the view does not show.

* `Settings.withPruning` are settings that differ in this one choice.
* `ViewSet.ComposesFrom` says that a view shows, with pruning and without, what the same filters
  leave of the same content, and `ViewSet.endsAlike` that a view which does not do so fails in both
  cases.
* `losesEnd_iff` says which relations lose an end.
* `OnlyPrunes` compares composing with pruning and without, and `onlyPrunes` says that every view of
  every set composes so.
-/

namespace Viewpoint

/-- The settings with dangling relations pruned or not. -/
def Settings.withPruning (settings : Settings) (prune : Bool) : Settings :=
  { settings with compose := { settings.compose with pruneDanglingRelations := prune } }

/-- The elements among entries. -/
def elementsOf (entries : List Entry) : List Entry :=
  entries.filter (·.item.isElement)

/-- Content shows an element of this name. -/
def Content.ShowsElement (content : Content) (id : Ident) : Prop :=
  ∃ entry ∈ content.entries, ∃ e, entry.item = .element e ∧ e.id = id

/-- A relation has an end that is an element of the first content and not of the second. -/
def LosesEnd (before after : Content) (r : Relation) : Prop :=
  ∃ id, r.touches id = true ∧ before.ShowsElement id ∧ ¬ after.ShowsElement id

section Elements

variable {filters : List TagFilter} {entries : List Entry}

/-- Whether a view with these entries is refused is decided by the elements among them. -/
theorem firstModeledElement_elementsOf (entries : List Entry) :
    firstModeledElement (elementsOf entries) = firstModeledElement entries := by
  induction entries with
  | nil => rfl
  | cons entry rest ih =>
    simp only [firstModeledElement, elementsOf] at ih ⊢
    cases hitem : entry.item with
    | element e =>
      rw [List.filter_cons_of_pos (by simp [hitem, Item.isElement]), List.findSome?_cons,
        List.findSome?_cons, ih]
    | relation r =>
      rw [List.filter_cons_of_neg (by simp [hitem, Item.isElement]), ih, List.findSome?_cons, hitem]
      rfl

/-- Which elements filters leave does not depend on pruning. -/
theorem elementsOf_filter_remains (prune prune' : Bool) :
    elementsOf (entries.filter (Remains filters prune entries ·)) =
      elementsOf (entries.filter (Remains filters prune' entries ·)) := by
  rw [elementsOf, elementsOf, List.filter_filter, List.filter_filter]
  refine List.filter_congr fun entry _ => ?_
  cases hitem : entry.item with
  | element e => simp [remains_of_element hitem]
  | relation r => rfl

/-- A view is refused for what filters leave with pruning or without. -/
theorem offender?_filter_remains (view : View) (prune prune' : Bool) :
    view.offender? (entries.filter (Remains filters prune entries ·)) =
      view.offender? (entries.filter (Remains filters prune' entries ·)) := by
  rw [View.offender?, View.offender?, ← firstModeledElement_elementsOf,
    elementsOf_filter_remains prune prune', firstModeledElement_elementsOf]

end Elements

/-- Over content without repetitions, a relation loses an end when filters do not admit one of its
ends that is an element of the content. -/
theorem losesEnd_iff {root pruned : Content} {filters : List TagFilter} {r : Relation}
    (hnodup : (root.entries.map (·.item.id)).Nodup)
    (hpruned : pruned.entries = root.entries.filter (Remains filters true root.entries ·)) :
    LosesEnd root pruned r ↔ ∃ other ∈ root.entries, ∃ e, other.item = .element e ∧
      r.touches e.id = true ∧ ¬ ∀ filter ∈ filters, filter.Admits other.item := by
  -- the elements that are left are those that the filters admit
  have hleft : ∀ other ∈ root.entries, ∀ e, other.item = .element e →
      (other ∈ pruned.entries ↔ ∀ filter ∈ filters, filter.Admits other.item) := by
    intro other hother e he
    rw [hpruned, List.mem_filter, decide_eq_true_iff, remains_of_element he, and_iff_right hother]
  constructor
  · rintro ⟨id, htouches, ⟨other, hother, e, he, rfl⟩, hlost⟩
    refine ⟨other, hother, e, he, htouches, fun hadmitted => ?_⟩
    exact hlost ⟨other, (hleft other hother e he).2 hadmitted, e, he, rfl⟩
  · rintro ⟨other, hother, e, he, htouches, hadmitted⟩
    refine ⟨e.id, htouches, ⟨other, hother, e, he, rfl⟩, ?_⟩
    rintro ⟨entry, hentry, e', he', hid⟩
    -- no other entry has the name of this element
    have hmem : entry ∈ root.entries := (List.mem_filter.1 (hpruned ▸ hentry)).1
    have heq : entry = other := by
      refine List.inj_on_of_nodup_map hnodup hmem hother ?_
      rw [he, he']
      exact hid
    subst heq
    exact hadmitted ((hleft entry hmem e he).1 hentry)

/-- What pruning makes of the content of a view, by the content at the end of its base chain. -/
structure PrunedFrom (root full pruned : Content) : Prop where
  /-- The elements are the same in the same order. -/
  elements_eq : elementsOf pruned.entries = elementsOf full.entries
  /-- Pruning only leaves items out. -/
  sublist : pruned.entries.Sublist full.entries
  /-- What it leaves out are relations that lose an end. -/
  removed : ∀ entry ∈ full.entries, entry ∉ pruned.entries →
    ∃ r, entry.item = .relation r ∧ LosesEnd root pruned r
  /-- No relation that is left loses an end. -/
  remaining : ∀ entry ∈ pruned.entries, ∀ r, entry.item = .relation r → ¬ LosesEnd root pruned r

/-- What filters leave without pruning is pruned to what they leave with it. -/
theorem prunedFrom_of_remains {root full pruned : Content} {filters : List TagFilter}
    (hnodup : (root.entries.map (·.item.id)).Nodup)
    (hfull : full.entries = root.entries.filter (Remains filters false root.entries ·))
    (hpruned : pruned.entries = root.entries.filter (Remains filters true root.entries ·)) :
    PrunedFrom root full pruned where
  elements_eq := by rw [hpruned, hfull, elementsOf_filter_remains true false]
  sublist := by
    rw [hpruned, hfull]
    refine List.monotone_filter_right _ fun entry hentry => ?_
    exact decide_eq_true (remains_false.2 (of_decide_eq_true hentry).admitted)
  removed entry hentry hremoved := by
    rw [hfull, List.mem_filter, decide_eq_true_iff, remains_false] at hentry
    obtain ⟨hmem, hadmitted⟩ := hentry
    rw [hpruned, List.mem_filter, decide_eq_true_iff, and_iff_right hmem] at hremoved
    cases hitem : entry.item with
    | element e => exact absurd ((remains_of_element hitem).2 hadmitted) hremoved
    | relation r =>
      refine ⟨r, rfl, (losesEnd_iff hnodup hpruned).2 ?_⟩
      rw [remains_true_of_relation hitem, and_iff_right hadmitted] at hremoved
      push Not at hremoved
      obtain ⟨other, hother, e, he, htouches, filter, hfilter, hadmits⟩ := hremoved
      exact ⟨other, hother, e, he, htouches, fun hall => hadmits (hall filter hfilter)⟩
  remaining entry hentry r hr hloses := by
    rw [hpruned, List.mem_filter, decide_eq_true_iff, remains_true_of_relation hr] at hentry
    obtain ⟨other, hother, e, he, htouches, hadmitted⟩ := (losesEnd_iff hnodup hpruned).1 hloses
    exact hadmitted (hentry.2.2 other hother e he htouches)

namespace ViewSet

variable {set : ViewSet} {model : Model} {settings : Settings} {id base : Ident} {n : Nat}

/-- With pruning and without, a view shows what filters leave of the content of the view at the end
of its base chain. -/
structure ComposesFrom (set : ViewSet) (model : Model) (settings : Settings) (id : Ident)
    (root : View) (rootContent : Content) (filters : List TagFilter) : Prop where
  /-- The walk of bases ends at this view. -/
  isRootOf : set.IsRootOf root id
  /-- That view shows the same with pruning and without. -/
  root_ok : ∀ prune, (set.compose model (settings.withPruning prune) root.id).value =
    .ok rootContent
  /-- Of its content the view shows what the filters leave. -/
  ok : ∀ prune, ∃ content, (set.compose model (settings.withPruning prune) id).value =
      .ok content ∧
    content.entries =
      rootContent.entries.filter (Remains filters prune rootContent.entries ·)

/-- What becomes of a view with pruning and without. -/
inductive EndsAlike (set : ViewSet) (model : Model) (settings : Settings) (id : Ident) : Prop
  /-- The view fails for the same reason. -/
  | fails (error : ViewError)
      (herror : ∀ prune, (set.compose model (settings.withPruning prune) id).value = .error error)
  /-- The view shows what the same filters leave of the same content. -/
  | shows (root : View) (rootContent : Content) (filters : List TagFilter)
      (hfrom : ComposesFrom set model settings id root rootContent filters)

/-- A view that filters nothing is composed in the same way with pruning and without. -/
theorem compose_withPruning {view : View} (hview : set.find? id = some view)
    (hroot : view.body.base? = none) (prune prune' : Bool) :
    set.compose model (settings.withPruning prune) id =
      set.compose model (settings.withPruning prune') id := by
  rw [compose_of_find? hview, compose_of_find? hview, chain_of_root hroot]
  rfl

/-- A view that filters such a view is refused with pruning as without, or it shows what one more
filter leaves. -/
theorem ComposesFrom.step {root view : View} {rootContent : Content} {filter : TagFilter}
    {filters : List TagFilter} (hview : set.find? id = some view)
    (hbody : view.body = .filtered base filter) (hends : WalkEnds set.base? id)
    (h : ComposesFrom set model settings base root rootContent filters) :
    EndsAlike set model settings id := by
  have hcompose : ∀ prune, ∃ layout,
      (set.compose model (settings.withPruning prune) id).value =
        (finishContent view layout (rootContent.entries.filter
          (Remains (filter :: filters) prune rootContent.entries ·)) []).value := by
    intro prune
    obtain ⟨content, hok, hentries⟩ := h.ok prune
    refine ⟨view.layout.inherit content.layout, ?_⟩
    rw [compose_of_base_ok hview hbody hends hok, narrow_eq_filter, hentries]
    exact congrArg (fun entries => (finishContent view _ entries []).value) filter_remains_filter
  -- the elements decide whether the view is refused, and they are the same in both cases
  cases hoffender : view.offender? (rootContent.entries.filter
      (Remains (filter :: filters) true rootContent.entries ·)) with
  | some element =>
    refine .fails (.invalid view.id (.nonCustomElement element)) fun prune => ?_
    obtain ⟨layout, hfinish⟩ := hcompose prune
    rw [hfinish, finishContent_of_offender (offender?_filter_remains view prune true ▸ hoffender)]
  | none =>
    have hroot := h.isRootOf.of_base? (base?_of_filtered hview hbody)
    refine .shows root rootContent (filter :: filters) ⟨hroot, h.root_ok, fun prune => ?_⟩
    obtain ⟨layout, hfinish⟩ := hcompose prune
    rw [offender?_filter_remains view true prune] at hoffender
    exact ⟨_, hfinish.trans (finishContent_of_no_offender hoffender), entries_ofEntries⟩

/-- Along a walk that comes to a view without a base, a view fails with pruning as without, or it
shows what the filters on the way leave. -/
theorem endsAlike_of_endsAtRoot (h : set.EndsAtRoot id n) : EndsAlike set model settings id := by
  -- by induction on the walk: each view on the way has one more filter than its base
  induction n generalizing id with
  | zero =>
    obtain ⟨name, root, hname, hroot, hbody⟩ := h
    cases hname
    have hsame : ∀ prune, (set.compose model (settings.withPruning prune) id).value =
        (set.compose model (settings.withPruning true) id).value :=
      fun prune => congrArg Logged.value (compose_withPruning hroot hbody prune true)
    cases hcompose : (set.compose model (settings.withPruning true) id).value with
    | error error => exact .fails error fun prune => (hsame prune).trans hcompose
    | ok content =>
      have hok := fun prune => (hsame prune).trans hcompose
      refine .shows root content [] ⟨⟨0, id, walk_zero, hroot, hbody⟩, ?_, fun prune => ?_⟩
      · rwa [id_of_find? hroot]
      · refine ⟨content, hok prune, (List.filter_eq_self.2 fun entry _ => ?_).symm⟩
        exact decide_eq_true ⟨by simp, by simp⟩
  | succ n ih =>
    have hends := h.walkEnds
    obtain ⟨view, base, filter, baseView, hview, hbody, hbase, -, hbaseEnds⟩ := h.exists_base
    cases ih hbaseEnds with
    | fails error herror =>
      exact .fails _ fun prune => compose_of_base_error hview hbody hends hbase (herror prune)
    | shows root rootContent filters hfrom => exact hfrom.step hview hbody hends

/-- Every view fails with pruning as without, or it shows what the filters on its base chain
leave. -/
theorem endsAlike (set : ViewSet) (model : Model) (settings : Settings) (id : Ident) :
    EndsAlike set model settings id := by
  cases hview : set.find? id with
  | none => exact .fails _ fun _ => compose_of_find?_none hview
  | some view =>
    -- a walk that does not come to a view without a base fails for names only
    rcases walk_cases hview with ⟨i, j, h⟩ | ⟨n, last, lost, hlast, hlost, hnone⟩ | ⟨n, h⟩
    · obtain ⟨entry, hentry⟩ := exists_walk_of_not_walkEnds h.not_walkEnds i
      exact .fails _ fun _ => compose_of_circle h hentry
    · cases n with
      | zero =>
        cases hlast
        exact .fails _ fun _ => compose_of_base?_none hlost hnone
      | succ n =>
        rw [walk_succ] at hlast
        obtain ⟨base, hstep, hlast⟩ := Option.bind_eq_some_iff.1 hlast
        exact .fails _ fun _ => compose_of_lost hlast hlost hnone hstep
    · exact endsAlike_of_endsAtRoot h

end ViewSet

/-- Composing a view with dangling relations pruned, against composing it with all of them kept. -/
structure OnlyPrunes (set : ViewSet) (model : Model) (settings : Settings) (id : Ident) :
    Prop where
  /-- The view fails in both cases and for the same reason, or it composes in both cases. Then
  pruning leaves out those relations that have an end among the elements of the view at the end of
  the base chain which is not shown. -/
  outcomes :
    (∃ error, (set.compose model (settings.withPruning false) id).value = .error error ∧
      (set.compose model (settings.withPruning true) id).value = .error error) ∨
    ∃ root rootContent full pruned, set.IsRootOf root id ∧
      (∀ prune, (set.compose model (settings.withPruning prune) root.id).value =
        .ok rootContent) ∧
      (set.compose model (settings.withPruning false) id).value = .ok full ∧
      (set.compose model (settings.withPruning true) id).value = .ok pruned ∧
      PrunedFrom rootContent full pruned
  /-- A view that filters nothing composes to the same outcome, with the same notices. -/
  unaffected : ∀ view, set.find? id = some view → view.body.base? = none →
    set.compose model (settings.withPruning true) id =
      set.compose model (settings.withPruning false) id

/-- Pruning leaves out dangling relations and changes nothing else about composing a view. -/
theorem onlyPrunes (set : ViewSet) (model : Model) (settings : Settings) (id : Ident) :
    OnlyPrunes set model settings id where
  outcomes := by
    cases set.endsAlike model settings id with
    | fails error herror => exact Or.inl ⟨error, herror false, herror true⟩
    | shows root rootContent filters hfrom =>
      obtain ⟨full, hfull, hfullEntries⟩ := hfrom.ok false
      obtain ⟨pruned, hpruned, hprunedEntries⟩ := hfrom.ok true
      have hnodup := ViewSet.nodup_ids_of_ok (hfrom.root_ok true)
      exact Or.inr ⟨root, rootContent, full, pruned, hfrom.isRootOf, hfrom.root_ok, hfull, hpruned,
        prunedFrom_of_remains hnodup hfullEntries hprunedEntries⟩
  unaffected view hview hroot := ViewSet.compose_withPruning hview hroot true false

example : [false, true].map (fun prune => (Model.build depotSources).value.toOption.map fun built =>
      (depotViews.compose built.model (Settings.withPruning {} prune) ⟨"unstored"⟩).value.map
        Content.ids) =
    [some (.ok [⟨"api-to-db"⟩, ⟨"api"⟩]), some (.ok [⟨"api"⟩])] := by
  decide +kernel

end Viewpoint
