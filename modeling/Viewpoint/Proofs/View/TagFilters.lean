import Mathlib.Logic.Basic
import Viewpoint.Proofs.View.Narrowing

/-!
# The two modes of tag filters

A filter keeps the tagged items or leaves them out. More tags admit more items in the one mode and
fewer in the other, and pruning does not change this: a relation is pruned for an end that is not
admitted, and a filter that admits more admits more ends too. With the same tags the two modes share
nothing and leave no element behind; a relation is left behind by both only where pruning takes it
for an end that lies on the other side.

* `TagFilter.narrow_sublist_narrow` says that a filter that admits less leaves less, with pruning or
  without.
* `TagFilter.mem_narrow_element_iff` and `TagFilter.mem_narrow_relation_iff` say which elements and
  which relations a filter leaves.
* `FiltersByTags` says how the filters of the two modes are related, and `filtersByTags_of_compose`
  that they are so related over the content of every view that composes.
-/

namespace Viewpoint

namespace TagFilter

variable {filter filter' : TagFilter} {prune : Bool} {entries : List Entry} {entry : Entry}
  {tags tags' : List String} {item : Item}

/-- With more tags a filter that keeps tagged items admits more. -/
theorem admits_keep_of_subset (htags : tags ⊆ tags') (h : Admits ⟨.keep, tags⟩ item) :
    Admits ⟨.keep, tags'⟩ item := by
  obtain ⟨tag, htag, hitem⟩ := h
  exact ⟨tag, htags htag, hitem⟩

/-- With more tags a filter that leaves tagged items out admits less. -/
theorem admits_drop_of_subset (htags : tags ⊆ tags') (h : Admits ⟨.drop, tags'⟩ item) :
    Admits ⟨.drop, tags⟩ item :=
  fun tag htag => h tag (htags htag)

/-- With the same tags the one mode admits what the other one does not. -/
theorem admits_drop_iff : Admits ⟨.drop, tags⟩ item ↔ ¬ Admits ⟨.keep, tags⟩ item := by
  simp only [Admits, not_exists, not_and, Bool.not_eq_true]

/-- What a filter leaves. -/
theorem mem_narrow_iff : entry ∈ filter.narrow prune entries ↔
    entry ∈ entries ∧ Remains [filter] prune entries entry := by
  rw [narrow_eq_filter, List.mem_filter, decide_eq_true_iff]

/-- A filter leaves the elements that it admits. -/
theorem mem_narrow_element_iff {e : Element} (he : entry.item = .element e) :
    entry ∈ filter.narrow prune entries ↔ entry ∈ entries ∧ filter.Admits entry.item := by
  rw [mem_narrow_iff, remains_of_element he, List.forall_mem_singleton]

/-- Without pruning a filter leaves the entries that it lets pass. -/
theorem narrow_false (entries : List Entry) :
    filter.narrow false entries = entries.filter fun entry => filter.passes entry.item := by
  refine List.filter_congr fun entry _ => ?_
  cases entry.item with
  | element e => exact Bool.and_true _
  | relation r => exact Bool.and_true _

/-- Without pruning a filter leaves all items that it admits. -/
theorem mem_narrow_false_iff :
    entry ∈ filter.narrow false entries ↔ entry ∈ entries ∧ filter.Admits entry.item := by
  rw [narrow_false, List.mem_filter, passes_iff]

/-- With pruning a filter leaves the relations that it admits with those of their ends that are
elements among the entries. -/
theorem mem_narrow_relation_iff {r : Relation} (hr : entry.item = .relation r) :
    entry ∈ filter.narrow true entries ↔ entry ∈ entries ∧ filter.Admits entry.item ∧
      ∀ other ∈ entries, ∀ e, other.item = .element e → r.touches e.id = true →
        other ∈ filter.narrow true entries := by
  rw [mem_narrow_iff, remains_true_of_relation hr, List.forall_mem_singleton]
  refine and_congr_right fun _ => and_congr_right fun _ => forall₄_congr fun other hother e he => ?_
  rw [mem_narrow_element_iff he, List.forall_mem_singleton, and_iff_right hother]

/-- A filter leaves nothing that it does not admit. -/
theorem admits_of_mem_narrow (h : entry ∈ filter.narrow prune entries) :
    filter.Admits entry.item :=
  (mem_narrow_iff.1 h).2.admitted filter (List.mem_singleton_self filter)

/-- A filter that admits less leaves less, with pruning or without. -/
theorem narrow_sublist_narrow (h : ∀ item, filter.Admits item → filter'.Admits item) :
    (filter.narrow prune entries).Sublist (filter'.narrow prune entries) := by
  have hadmits : ∀ item, (∀ f ∈ [filter], Admits f item) → ∀ f ∈ [filter'], Admits f item := by
    intro item
    rw [List.forall_mem_singleton, List.forall_mem_singleton]
    exact h item
  rw [narrow_eq_filter, narrow_eq_filter]
  refine List.monotone_filter_right entries fun entry hentry => ?_
  rw [decide_eq_true_iff] at hentry ⊢
  -- the ends that the first filter admits are admitted by the second one as well
  refine ⟨hadmits entry.item hentry.admitted, fun hprune r hr other hother e he htouches => ?_⟩
  exact hadmits other.item (hentry.ends_admitted hprune r hr other hother e he htouches)

/-- With pruning, neither mode leaves a relation for which the mode that admits it takes out an
end. -/
theorem notMem_narrow_iff {r : Relation} (hentry : entry ∈ entries)
    (hr : entry.item = .relation r) :
    entry ∉ narrow ⟨.keep, tags⟩ true entries ∧
        entry ∉ narrow ⟨.drop, tags⟩ true entries ↔
      ∃ mode, Admits ⟨mode, tags⟩ entry.item ∧ ∃ other ∈ entries, ∃ e,
        other.item = .element e ∧ r.touches e.id = true ∧
          other ∉ narrow ⟨mode, tags⟩ true entries := by
  -- a mode leaves the relation unless it does not admit it or takes out an end
  have hlost : ∀ mode, entry ∉ narrow ⟨mode, tags⟩ true entries ↔
      (Admits ⟨mode, tags⟩ entry.item → ∃ other ∈ entries, ∃ e,
        other.item = .element e ∧ r.touches e.id = true ∧
          other ∉ narrow ⟨mode, tags⟩ true entries) := by
    intro mode
    rw [mem_narrow_relation_iff hr, and_iff_right hentry, not_and]
    refine imp_congr_right fun _ => ?_
    push Not
    rfl
  rw [hlost, hlost]
  constructor
  · rintro ⟨hkeep, hdrop⟩
    by_cases hadmits : Admits ⟨.keep, tags⟩ entry.item
    · exact ⟨.keep, hadmits, hkeep hadmits⟩
    · have hadmits' := admits_drop_iff.2 hadmits
      exact ⟨.drop, hadmits', hdrop hadmits'⟩
  · rintro ⟨mode, hadmits, hend⟩
    cases mode with
    | keep => exact ⟨fun _ => hend, fun hdrop => absurd hadmits (admits_drop_iff.1 hdrop)⟩
    | drop => exact ⟨fun hkeep => absurd hkeep (admits_drop_iff.1 hadmits), fun _ => hend⟩

end TagFilter

/-- How filters of the two modes are related over entries. -/
structure FiltersByTags (prune : Bool) (entries : List Entry) : Prop where
  /-- Keeping the items with a tag keeps more for more tags. -/
  keep_mono : ∀ tags tags' : List String, tags ⊆ tags' →
    (TagFilter.narrow ⟨.keep, tags⟩ prune entries).Sublist
      (TagFilter.narrow ⟨.keep, tags'⟩ prune entries)
  /-- Leaving them out leaves less for more tags. -/
  drop_anti : ∀ tags tags' : List String, tags ⊆ tags' →
    (TagFilter.narrow ⟨.drop, tags'⟩ prune entries).Sublist
      (TagFilter.narrow ⟨.drop, tags⟩ prune entries)
  /-- No item is left by both modes. -/
  disjoint : ∀ tags : List String, ∀ kept ∈ TagFilter.narrow ⟨.keep, tags⟩ prune entries,
    ∀ left ∈ TagFilter.narrow ⟨.drop, tags⟩ prune entries, kept.item.id ≠ left.item.id
  /-- Every element is left by one of the modes and not by the other. -/
  element : ∀ tags : List String, ∀ entry ∈ entries, entry.item.isElement = true →
    Xor (entry ∈ TagFilter.narrow ⟨.keep, tags⟩ prune entries)
      (entry ∈ TagFilter.narrow ⟨.drop, tags⟩ prune entries)
  /-- So is every relation where dangling relations are not pruned. -/
  relation_unpruned : prune = false → ∀ tags : List String, ∀ entry ∈ entries,
    entry.item.isRelation = true →
      Xor (entry ∈ TagFilter.narrow ⟨.keep, tags⟩ prune entries)
        (entry ∈ TagFilter.narrow ⟨.drop, tags⟩ prune entries)
  /-- Where they are pruned, the relations that neither mode leaves are those of which the mode that
  admits the relation takes out an end that is an element among the entries. -/
  relation_pruned : prune = true → ∀ tags : List String, ∀ entry ∈ entries, ∀ r,
    entry.item = .relation r →
      (entry ∉ TagFilter.narrow ⟨.keep, tags⟩ prune entries ∧
          entry ∉ TagFilter.narrow ⟨.drop, tags⟩ prune entries ↔
        ∃ mode, TagFilter.Admits ⟨mode, tags⟩ entry.item ∧ ∃ other ∈ entries, ∃ e,
          other.item = .element e ∧ r.touches e.id = true ∧
            other ∉ TagFilter.narrow ⟨mode, tags⟩ prune entries)

/-- Filters over entries with distinct names are related by their tags. -/
theorem filtersByTags {entries : List Entry} (hnodup : (entries.map (·.item.id)).Nodup)
    (prune : Bool) : FiltersByTags prune entries where
  keep_mono _ _ htags := TagFilter.narrow_sublist_narrow fun _ =>
    TagFilter.admits_keep_of_subset htags
  drop_anti _ _ htags := TagFilter.narrow_sublist_narrow fun _ =>
    TagFilter.admits_drop_of_subset htags
  disjoint tags kept hkept left hleft hid := by
    have heq : kept = left := List.inj_on_of_nodup_map hnodup
      ((TagFilter.narrow_sublist _ _ _).subset hkept)
      ((TagFilter.narrow_sublist _ _ _).subset hleft) hid
    subst heq
    exact TagFilter.admits_drop_iff.1 (TagFilter.admits_of_mem_narrow hleft)
      (TagFilter.admits_of_mem_narrow hkept)
  element tags entry hentry helement := by
    cases he : entry.item with
    | relation r => simp [he, Item.isElement] at helement
    | element e =>
      rw [TagFilter.mem_narrow_element_iff he, TagFilter.mem_narrow_element_iff he,
        and_iff_right hentry, and_iff_right hentry, TagFilter.admits_drop_iff]
      exact xor_not_right.2 Iff.rfl
  relation_unpruned hprune tags entry hentry _ := by
    rw [hprune, TagFilter.mem_narrow_false_iff, TagFilter.mem_narrow_false_iff,
      and_iff_right hentry, and_iff_right hentry, TagFilter.admits_drop_iff]
    exact xor_not_right.2 Iff.rfl
  relation_pruned hprune tags entry hentry r hr := by
    rw [hprune]
    exact TagFilter.notMem_narrow_iff hentry hr

/-- Filters over the content of a view that composes are related by their tags. -/
theorem filtersByTags_of_compose {set : ViewSet} {model : Model} {settings : Settings} {id : Ident}
    {base : Content} (hok : (set.compose model settings id).value = .ok base) (prune : Bool) :
    FiltersByTags prune base.entries :=
  filtersByTags (ViewSet.nodup_ids_of_ok hok) prune

/-- Over the list of the depot the one mode leaves the store and the other one the service, and with
pruning neither leaves the relation between the two, which is not tagged as the store is. -/
theorem filtersByTags_depotViews :
    ∃ built base, (Model.build depotSources).value = .ok built ∧
      (depotViews.compose built.model {} ⟨"all"⟩).value = .ok base ∧
      [TagFilter.narrow ⟨.keep, ["storage"]⟩ true base.entries,
        TagFilter.narrow ⟨.drop, ["storage"]⟩ true base.entries,
        TagFilter.narrow ⟨.drop, ["storage"]⟩ false base.entries].map
          (List.map (·.item.id)) =
        [[⟨"db"⟩], [⟨"api"⟩], [⟨"api-to-db"⟩, ⟨"api"⟩]] ∧
      FiltersByTags true base.entries := by
  obtain ⟨built, base, hbuilt, hok, hnarrowed⟩ : ∃ built base,
      (Model.build depotSources).value = .ok built ∧
      (depotViews.compose built.model {} ⟨"all"⟩).value = .ok base ∧
      [TagFilter.narrow ⟨.keep, ["storage"]⟩ true base.entries,
        TagFilter.narrow ⟨.drop, ["storage"]⟩ true base.entries,
        TagFilter.narrow ⟨.drop, ["storage"]⟩ false base.entries].map
          (List.map (·.item.id)) =
        [[⟨"db"⟩], [⟨"api"⟩], [⟨"api-to-db"⟩, ⟨"api"⟩]] :=
    exists_content_of_map (by decide +kernel)
  exact ⟨built, base, hbuilt, hok, hnarrowed, filtersByTags_of_compose hok true⟩

end Viewpoint
