import Viewpoint.Proofs.View.Selecting
import Viewpoint.Proofs.View.TagFilters

/-!
# Filtering and excluding by tags

Items of a selection can be left out by tags in two ways: a view over the selection filters what it
shows, or the selection itself excludes the items, which it does before it puts them in order. Where
dangling relations are not pruned, both leave the same: a filter refuses the items for which one
alternative holds, and excluding these as well does what the filter does.

* `TagFilter.refusal` is the alternative that holds of the items that a filter refuses, and
  `TagFilter.excludedWith` excludes it beside what is excluded already.
* `ViewSet.Selects` says that a view selects items.
* `items_eq_of_filtered` says that filtering a selection shows what the selection shows that
  excludes what the filter refuses.
-/

namespace Viewpoint

namespace TagFilter

variable {model : Model} {filter : TagFilter} {item : Item}

/-- What holds of the items that a filter refuses: they have none of the tags if it keeps the tagged
items, and one of them if it leaves these out. -/
def refusal (filter : TagFilter) : Conjunction :=
  match filter.mode with
  | .keep => Conjunction.andNot {} (.tags filter.tags)
  | .drop => Conjunction.and {} (.tags filter.tags)

/-- What a selection excludes, and what a filter refuses as one more alternative. -/
def excludedWith (filter : TagFilter) (exclude : Option Criteria) : Criteria :=
  .anyOf (exclude.elim [] Criteria.alternatives ++ [filter.refusal])

/-- A filter refuses the items that it does not let pass. -/
theorem holds_refusal : filter.refusal.holds model item = !filter.passes item := by
  rw [refusal, passes]
  cases filter.mode with
  | keep => simp [Conjunction.andNot, Conjunction.holds, Clause.holds, Predicate.holds]
  | drop => simp [Conjunction.and, Conjunction.holds, Clause.holds, Predicate.holds]

/-- Excluded are the items that are excluded already and those that the filter refuses. -/
theorem satisfies_excludedWith (exclude : Option Criteria) :
    model.satisfies (filter.excludedWith exclude) item =
      (exclude.any (model.satisfies · item) || !filter.passes item) := by
  rw [Model.satisfies, excludedWith, Criteria.alternatives, List.any_append, List.any_cons,
    List.any_nil, Bool.or_false, holds_refusal]
  cases exclude with
  | none => rfl
  | some criteria => rfl

end TagFilter

/-- A model that is built lists its items as they are declared. -/
theorem listsAsDeclared_of_build {sources : List Source} {built : Built}
    (h : (Model.build sources).value = .ok built) : built.model.ListsAsDeclared := by
  obtain ⟨hmodel, hnodup⟩ := assemble_of_build h
  rw [hmodel]
  exact Model.listsAsDeclared_assemble hnodup

namespace ViewSet

variable {set set' : ViewSet} {model : Model} {settings : Settings} {id id' base : Ident}
  {criteria : Criteria} {flags : List IncludeFlag} {exclude : Option Criteria} {filter : TagFilter}

/-- The view of a name selects items and is not a custom one. -/
def Selects (set : ViewSet) (id : Ident) (criteria : Criteria) (flags : List IncludeFlag)
    (exclude : Option Criteria) : Prop :=
  ∃ view, set.find? id = some view ∧ view.kind ≠ .modeled .custom ∧
    view.body = .selection criteria flags exclude

/-- In a model that lists its items as they are declared, a view that selects composes. It shows the
items whose names are found and that are not excluded. -/
theorem Selects.exists_content (h : set.Selects id criteria flags exclude)
    (hlisted : model.ListsAsDeclared) (settings : Settings) :
    ∃ content, (set.compose model settings id).value = .ok content ∧
      content.entries =
        ((model.items.filter ((model.foundNames criteria flags).contains ·.id)).filter fun item =>
          !exclude.any (model.satisfies · item)).map fun item => { item } := by
  obtain ⟨view, hview, hkind, hbody⟩ := h
  have hid : view.id = id := id_of_find? hview
  obtain ⟨content, hok, hentries⟩ := hlisted.selectsAsListed.compose_selection set settings {} view
    (List.mem_of_find?_eq_some hview) hkind criteria flags exclude hbody
  rw [hlisted.items_select] at hentries
  exact ⟨content, hid ▸ hok, hentries⟩

/-- A view that filters a selection shows the same items as a selection that excludes what the
filter refuses as well, if dangling relations are not pruned. -/
theorem items_eq_of_filtered {sources : List Source} {built : Built}
    (hbuilt : (Model.build sources).value = .ok built)
    (hprune : settings.compose.pruneDanglingRelations = false)
    (hbase : set.Selects base criteria flags exclude) (hfiltered : set.Narrows base id [filter])
    (hselected : set'.Selects id' criteria flags (some (filter.excludedWith exclude))) :
    ∃ content content', (set.compose built.model settings id).value = .ok content ∧
      (set'.compose built.model settings id').value = .ok content' ∧
      content.items = content'.items := by
  have hlisted := listsAsDeclared_of_build hbuilt
  obtain ⟨baseContent, hbaseOk, hbaseEntries⟩ := hbase.exists_content hlisted settings
  obtain ⟨content', hok', hentries'⟩ := hselected.exists_content hlisted settings
  obtain ⟨baseView, hbaseView, -, hbody⟩ := hbase
  obtain ⟨content, hok, hentries⟩ := exists_content_of_narrows hfiltered hbaseView
    (by rw [hbody]; rfl) hbaseOk
  refine ⟨content, content', hok, hok', ?_⟩
  have hequal : content.entries = content'.entries := by
    rw [hentries, ← narrow_eq_filter, hprune, TagFilter.narrow_false, hbaseEntries, hentries',
      List.filter_map, List.filter_filter]
    -- an item is left that the filter lets pass and that is not excluded already
    congr 1
    refine List.filter_congr fun item _ => ?_
    rw [Option.any_some, TagFilter.satisfies_excludedWith, Bool.not_or, Bool.not_not, Bool.and_comm]
    rfl
  rw [items_of_ok hok, items_of_ok hok', hequal]

/-- Criteria for what holds data. -/
def storageCriteria : Criteria :=
  .all (Conjunction.and {} (.tag "storage"))

/-- Criteria for persons. -/
def personCriteria : Criteria :=
  .all (Conjunction.and {} (.kind "person"))

/-- A filter that leaves out what holds data. -/
def dropStorage : TagFilter where
  mode := .drop
  tags := ["storage"]

/-- The store of the depot with what is related to it, a filter that leaves the store out, and the
selection that excludes it. -/
def storageViews : ViewSet where
  views :=
    [{ id := ⟨"around"⟩, kind := .modeled .landscape
       body := .selection storageCriteria [.related, .relations] (some personCriteria) },
      { id := ⟨"filtered"⟩, kind := .modeled .filtered, body := .filtered ⟨"around"⟩ dropStorage },
      { id := ⟨"excluded"⟩, kind := .modeled .landscape
        body := .selection storageCriteria [.related, .relations]
          (some (.anyOf [Conjunction.and {} (.kind "person"),
            Conjunction.and {} (.tags ["storage"])])) }]
  distinct := by decide

/-- Settings with which dangling relations are kept. -/
def keepingSettings : Settings where
  compose := { pruneDanglingRelations := false }

/-- Both leave the service and, as nothing is pruned, the relation to the store. -/
theorem items_eq_storageViews :
    ∃ built content content', (Model.build depotSources).value = .ok built ∧
      (storageViews.compose built.model keepingSettings ⟨"filtered"⟩).value = .ok content ∧
      (storageViews.compose built.model keepingSettings ⟨"excluded"⟩).value = .ok content' ∧
      content'.ids = [⟨"api"⟩, ⟨"api-to-db"⟩] ∧ content.items = content'.items := by
  have hprune : keepingSettings.compose.pruneDanglingRelations = false := rfl
  have hbase : storageViews.Selects ⟨"around"⟩ storageCriteria [.related, .relations]
      (some personCriteria) := ⟨_, rfl, by decide, rfl⟩
  have hfiltered : storageViews.Narrows ⟨"around"⟩ ⟨"filtered"⟩ [dropStorage] :=
    .step rfl (by decide) rfl .refl
  have hselected : storageViews.Selects ⟨"excluded"⟩ storageCriteria [.related, .relations]
      (some (dropStorage.excludedWith (some personCriteria))) := ⟨_, rfl, by decide, rfl⟩
  obtain ⟨built, hbuilt, hids⟩ : ∃ built, (Model.build depotSources).value = .ok built ∧
      ((built.model.items.filter
        ((built.model.foundNames storageCriteria [.related, .relations]).contains ·.id)).filter
          fun item => !(some (dropStorage.excludedWith (some personCriteria))).any
            (built.model.satisfies · item)).map Item.id = [⟨"api"⟩, ⟨"api-to-db"⟩] :=
    exists_built_of_map (by decide +kernel)
  obtain ⟨content, content', hok, hok', hitems⟩ :=
    items_eq_of_filtered hbuilt hprune hbase hfiltered hselected
  obtain ⟨shown, hshown, hentries⟩ :=
    hselected.exists_content (listsAsDeclared_of_build hbuilt) keepingSettings
  rw [hok'] at hshown
  cases hshown
  refine ⟨built, content, content', hbuilt, hok, hok', ?_, hitems⟩
  rw [Content.ids_eq_map_entries, hentries, List.map_map]
  exact hids

end ViewSet

end Viewpoint
