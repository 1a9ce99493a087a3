import Viewpoint.Proofs.Model.Names
import Viewpoint.Proofs.View.Outcome

/-!
# Composed views show copies of the model

Whichever way a view is composed, its content shows items of the model, each at most once. What it
shows of an item is the record in the model, except for the name, the description and the
technologies that the list of an explicit view gives instead. Filtering leaves entries out and does
not change any, so all this goes on along a walk of bases.

* `Entry.IsCopyOf` says that an entry is a display copy of a record.
* `CopiesOf` says that entries are display copies, each of another item.
* `ShowsCopies` are the properties of content, and `showsCopies_of_compose` says that all views that
  compose have them.
-/

namespace Viewpoint

/-- An item without the parts that a display copy may show differently. -/
def Item.plain : Item → Item
  | .element e => .element { e with name := none, desc := none, tech := [] }
  | .relation r => .relation { r with name := none, desc := none, tech := [] }

/-- The entry of an explicit list that an item is shown by: the first one that names it. -/
def ViewBody.refOf? (body : ViewBody) (id : Ident) : Option ContentRef :=
  match body with
  | .explicit content => content.find? (·.item = id)
  | _ => none

/-- An entry shows a record of the model as a list entry asks for, if there is one. -/
structure Entry.IsCopyOf (entry : Entry) (ref? : Option ContentRef) (record : Item) : Prop where
  /-- The rank is that of the list entry. -/
  order : entry.order = ref?.bind ContentRef.order
  /-- The copy is the record except for what a copy may show differently. -/
  plain : entry.item.plain = record.plain
  /-- The name is the record's own where the list entry gives none. -/
  name : entry.item.name = (ref?.bind ContentRef.name).or record.name
  /-- The description is the record's own where the list entry gives none. -/
  desc : entry.item.desc = (ref?.bind ContentRef.desc).or record.desc
  /-- The technologies are the record's own where the list entry gives none. -/
  tech : entry.item.tech = (ref?.bind ContentRef.tech).getD record.tech

/-- Entries show items of the model, no two of them the same item. -/
structure CopiesOf (model : Model) (body : ViewBody) (entries : List Entry) : Prop where
  /-- No item is shown twice. -/
  nodup : (entries.map (·.item.id)).Nodup
  /-- Every entry is a display copy of the item of its name. -/
  copy : ∀ entry ∈ entries, ∃ record, model.item? entry.item.id = some record ∧
    entry.IsCopyOf (body.refOf? entry.item.id) record

namespace Entry

variable {entry : Entry} {record : Item}

/-- A record is a display copy of itself that nothing is asked of. -/
theorem isCopyOf_self (record : Item) : IsCopyOf { item := record } none record :=
  ⟨rfl, rfl, rfl, rfl, rfl⟩

/-- What a list entry makes of a record is a display copy of the record. -/
theorem isCopyOf_override (ref : ContentRef) (record : Item) :
    IsCopyOf ⟨ref.order, ref.override record⟩ (some ref) record := by
  cases record with
  | element e => exact ⟨rfl, rfl, rfl, rfl, rfl⟩
  | relation r => exact ⟨rfl, rfl, rfl, rfl, rfl⟩

/-- A display copy of an element shows an element. -/
theorem IsCopyOf.exists_element {ref? : Option ContentRef} (h : entry.IsCopyOf ref? record)
    {e : Element} (he : entry.item = .element e) : ∃ e', record = .element e' := by
  have hplain := h.plain
  cases record with
  | element e' => exact ⟨e', rfl⟩
  | relation r =>
    rw [he] at hplain
    cases hplain

/-- A display copy of a relation shows a relation. -/
theorem IsCopyOf.exists_relation {ref? : Option ContentRef} (h : entry.IsCopyOf ref? record)
    {r : Relation} (hr : entry.item = .relation r) : ∃ r', record = .relation r' := by
  have hplain := h.plain
  cases record with
  | relation r' => exact ⟨r', rfl⟩
  | element e =>
    rw [hr] at hplain
    cases hplain

end Entry

/-- A display copy has the name of the item. -/
@[simp]
theorem ContentRef.id_override (ref : ContentRef) (item : Item) :
    (ref.override item).id = item.id := by
  cases item with
  | element e => rfl
  | relation r => rfl

namespace CopiesOf

variable {model : Model} {body : ViewBody} {entries entries' : List Entry}

/-- Leaving entries out changes nothing about the others. -/
theorem sublist (h : CopiesOf model body entries) (hsub : entries'.Sublist entries) :
    CopiesOf model body entries' where
  nodup := h.nodup.sublist (hsub.map _)
  copy entry hentry := h.copy entry (hsub.subset hentry)

/-- The order of the entries does not matter. -/
theorem perm (h : CopiesOf model body entries) (hperm : entries'.Perm entries) :
    CopiesOf model body entries' where
  nodup := (hperm.map _).nodup_iff.2 h.nodup
  copy entry hentry := h.copy entry (hperm.mem_iff.1 hentry)

end CopiesOf

namespace Model

variable {model : Model}

/-- The items that are found under names have those of the names that there are items for. -/
theorem map_id_filterMap_item? (ids : List Ident) :
    (ids.filterMap model.item?).map Item.id = ids.filter model.contains := by
  induction ids with
  | nil => rfl
  | cons id rest ih =>
    cases h : model.item? id with
    | none => simp [h, ih, contains]
    | some item => simp [h, ih, contains, id_of_item? h]

/-- The entries of a selection are the records of the selected items. -/
theorem copiesOf_selectedEntries (settings : SelectionSettings) (criteria : Criteria)
    (flags : List IncludeFlag) (exclude : Option Criteria) :
    CopiesOf model (.selection criteria flags exclude)
      (model.selectedEntries settings criteria flags exclude).value := by
  -- excluding leaves items out and ordering permutes them, so only the items that are found matter
  obtain ⟨kept, hkept, hvalue⟩ : ∃ kept : List Item,
      kept.Sublist ((model.expand (model.matching settings criteria).value flags).toList.filterMap
        model.item?) ∧
      (model.selectedEntries settings criteria flags exclude).value =
        (model.inDeclaredOrder kept).map fun item => { item } :=
    ⟨_, List.filter_sublist, rfl⟩
  have hnodup : (kept.map Item.id).Nodup := by
    refine List.Nodup.sublist (hkept.map Item.id) ?_
    rw [map_id_filterMap_item?]
    exact (IdentSet.nodup _).filter _
  have hperm : ((model.inDeclaredOrder kept).map fun item => ({ item } : Entry)).Perm
      (kept.map fun item => { item }) := (List.mergeSort_perm _ _).map _
  rw [hvalue]
  refine CopiesOf.perm ⟨?_, ?_⟩ hperm
  · rwa [List.map_map]
  · intro entry hentry
    obtain ⟨item, hitem, rfl⟩ := List.mem_map.1 hentry
    obtain ⟨id, -, hfind⟩ := List.mem_filterMap.1 (hkept.subset hitem)
    exact ⟨item, id_of_item? hfind ▸ hfind, Entry.isCopyOf_self item⟩

/-- A list entry that is kept names an item, and it is the first to name it. -/
theorem mem_knownRefs {seen : List Ident} {content : List ContentRef} {ref : ContentRef}
    (h : ref ∈ model.knownRefs seen content) :
    model.contains ref.item = true ∧ ref.item ∉ seen ∧
      content.find? (·.item = ref.item) = some ref := by
  -- by induction on the list, for all names that are seen before
  induction content generalizing seen with
  | nil => cases h
  | cons first rest ih =>
    rw [knownRefs] at h
    split at h
    · next hfirst =>
      rw [Bool.and_eq_true, Bool.not_eq_true', List.contains_eq_mem,
        decide_eq_false_iff_not] at hfirst
      rcases List.mem_cons.1 h with rfl | h
      · exact ⟨hfirst.1, hfirst.2, List.find?_cons_of_pos (by simp)⟩
      · obtain ⟨hcontains, hseen, hfind⟩ := ih h
        rw [List.mem_cons, not_or] at hseen
        refine ⟨hcontains, hseen.2, ?_⟩
        rw [List.find?_cons_of_neg (by simpa using Ne.symm hseen.1), hfind]
    · next hfirst =>
      obtain ⟨hcontains, hseen, hfind⟩ := ih h
      refine ⟨hcontains, hseen, ?_⟩
      -- an entry that is skipped names no item, or one that is seen before
      have hne : first.item ≠ ref.item := by
        intro heq
        simp [heq, hcontains, hseen] at hfirst
      rw [List.find?_cons_of_neg (by simpa using hne), hfind]

/-- No two list entries that are kept name the same item. -/
theorem nodup_knownRefs (seen : List Ident) (content : List ContentRef) :
    ((model.knownRefs seen content).map ContentRef.item).Nodup := by
  induction content generalizing seen with
  | nil => exact List.nodup_nil
  | cons first rest ih =>
    rw [knownRefs]
    split
    · rw [List.map_cons, List.nodup_cons]
      refine ⟨fun hmem => ?_, ih _⟩
      obtain ⟨ref, href, hitem⟩ := List.mem_map.1 hmem
      exact (mem_knownRefs href).2.1 (hitem ▸ List.mem_cons_self)
    · exact ih seen

/-- An entry that a list asks for has the name that the list gives. -/
theorem id_of_entryOfRef? {ref : ContentRef} {entry : Entry}
    (h : model.entryOfRef? ref = some entry) : entry.item.id = ref.item := by
  obtain ⟨item, hitem, rfl⟩ := Option.map_eq_some_iff.1 h
  rw [ContentRef.id_override, id_of_item? hitem]

/-- The names of the entries that a list asks for are among those that it gives. -/
theorem map_id_filterMap_entryOfRef? (refs : List ContentRef) :
    ((refs.filterMap model.entryOfRef?).map (·.item.id)).Sublist (refs.map ContentRef.item) := by
  induction refs with
  | nil => exact List.Sublist.slnil
  | cons ref rest ih =>
    cases h : model.entryOfRef? ref with
    | none =>
      rw [List.filterMap_cons_none h, List.map_cons]
      exact ih.cons _
    | some entry =>
      rw [List.filterMap_cons_some h, List.map_cons, List.map_cons, id_of_entryOfRef? h]
      exact ih.cons_cons _

/-- The entries of a list are the display copies that it asks for. -/
theorem copiesOf_listedEntries (content : List ContentRef) :
    CopiesOf model (.explicit content) (model.listedEntries content) := by
  have hunsorted : CopiesOf model (.explicit content)
      ((model.knownRefs [] content).filterMap model.entryOfRef?) := by
    refine ⟨(nodup_knownRefs [] content).sublist (map_id_filterMap_entryOfRef? _), ?_⟩
    intro entry hentry
    obtain ⟨ref, href, hcopy⟩ := List.mem_filterMap.1 hentry
    have hid := id_of_entryOfRef? hcopy
    obtain ⟨record, hrecord, rfl⟩ := Option.map_eq_some_iff.1 hcopy
    refine ⟨record, hid ▸ hrecord, ?_⟩
    -- the list entry that is kept is the first one that names the item
    rw [hid, ViewBody.refOf?, (mem_knownRefs href).2.2]
    exact Entry.isCopyOf_override ref record
  rw [listedEntries]
  split
  · exact hunsorted.perm (List.mergeSort_perm _ _)
  · exact hunsorted

/-- The entries that a view has of its own are display copies as its body asks for. -/
theorem copiesOf_ownEntries (settings : SelectionSettings) (view : View) :
    CopiesOf model view.body (model.ownEntries settings view).value.1 := by
  rw [ownEntries]
  cases view.body with
  | selection criteria flags exclude =>
    exact copiesOf_selectedEntries settings criteria flags exclude
  | explicit content => exact copiesOf_listedEntries content
  | filtered base filter => exact ⟨List.nodup_nil, fun entry hentry => by cases hentry⟩

end Model

/-- Filtering only leaves entries out. -/
theorem TagFilter.narrow_sublist (filter : TagFilter) (prune : Bool) (entries : List Entry) :
    (filter.narrow prune entries).Sublist entries :=
  List.filter_sublist

/-- Whether a warning says that a view shows nothing. -/
def ViewWarning.isEmptyContent : ViewWarning → Bool
  | emptyContent _ => true
  | unknownItem _ _ => false
  | mixedOrder _ => false

namespace ViewSet

variable {set : ViewSet} {model : Model} {settings : Settings} {id base : Ident} {n : Nat}

/-- The walk of bases from the view of a name ends at a view, which filters nothing. -/
def IsRootOf (set : ViewSet) (root : View) (id : Ident) : Prop :=
  ∃ n name, walk set.base? n id = some name ∧ set.find? name = some root ∧ root.body.base? = none

/-- The walk from a filtered view ends where the walk from its base ends. -/
theorem IsRootOf.of_base? {root : View} (h : set.IsRootOf root base)
    (hstep : set.base? id = some base) : set.IsRootOf root id := by
  obtain ⟨n, name, hname, hroot, hbody⟩ := h
  exact ⟨n + 1, name, by rw [walk_succ, hstep, Option.bind_some, hname], hroot, hbody⟩

/-- The entries of a view are display copies as the body at the end of its walk asks for. -/
theorem copiesOf_entriesOf (h : set.EndsAtRoot id n) :
    ∃ root, set.IsRootOf root id ∧
      CopiesOf model root.body (set.entriesOf model settings id) := by
  -- by induction on the walk: each filter on the way leaves out some of what its base shows
  induction n generalizing id with
  | zero =>
    obtain ⟨name, root, hname, hroot, hbody⟩ := h
    cases hname
    refine ⟨root, ⟨0, id, walk_zero, hroot, hbody⟩, ?_⟩
    rw [entriesOf_of_root hroot hbody]
    exact Model.copiesOf_ownEntries settings.selection root
  | succ n ih =>
    obtain ⟨view, base, filter, baseView, hview, hbody, hbase, hstep, hbaseEnds⟩ := h.exists_base
    obtain ⟨root, hroot, hcopies⟩ := ih hbaseEnds
    refine ⟨root, hroot.of_base? hstep, ?_⟩
    rw [entriesOf_of_base hview hbody hbase h.walkEnds]
    exact hcopies.sublist (filter.narrow_sublist _ _)

/-- The warnings about the own entries of a view do not say that it shows nothing. -/
theorem filter_isEmptyContent_ownEntries (settings : SelectionSettings) (view : View) :
    (model.ownEntries settings view).value.2.filter ViewWarning.isEmptyContent = [] := by
  rw [Model.ownEntries]
  cases view.body with
  | selection criteria flags exclude => rfl
  | filtered base filter => rfl
  | explicit content =>
    simp only [Logged.value_pure, Model.listWarnings, List.filter_append, List.filter_map]
    split <;> simp [ViewWarning.isEmptyContent, Function.comp_def]

/-- The content of a view that composes is made of its entries, with a warning at the end if there
are none. -/
theorem content_of_ok {content : Content}
    (hok : (set.compose model settings id).value = .ok content) :
    ∃ view layout warnings, set.find? id = some view ∧
      warnings.filter ViewWarning.isEmptyContent = [] ∧
      content = .ofEntries view layout (set.entriesOf model settings id)
        (if (set.entriesOf model settings id).isEmpty then warnings ++ [.emptyContent id]
          else warnings) := by
  obtain ⟨n, hends⟩ := endsAtRoot_of_ok hok
  -- a view without a base has warnings of its own, and a filtered view has none
  cases n with
  | zero =>
    obtain ⟨name, view, hname, hview, hbody⟩ := hends
    cases hname
    rw [compose_of_root hview hbody] at hok
    refine ⟨view, view.layout, (model.ownEntries settings.selection view).value.2, hview,
      filter_isEmptyContent_ownEntries settings.selection view, ?_⟩
    rw [eq_ofEntries_of_ok hok, id_of_find? hview]
  | succ n =>
    have hwalk := hends.walkEnds
    obtain ⟨view, base, filter, baseView, hview, hbody, hbase, hstep, hbaseEnds⟩ :=
      hends.exists_base
    obtain ⟨baseContent, hcompose, hfinish⟩ := exists_base_of_ok hview hbody hwalk hbase hok
    rw [(composesAlong hbaseEnds).entries_of_ok hcompose,
      ← entriesOf_of_base hview hbody hbase hwalk] at hfinish
    refine ⟨view, view.layout.inherit baseContent.layout, [], hview, rfl, ?_⟩
    rw [eq_ofEntries_of_ok hfinish, id_of_find? hview]

/-- A view that composes shows no item twice. -/
theorem nodup_ids_of_ok {content : Content}
    (hok : (set.compose model settings id).value = .ok content) :
    (content.entries.map (·.item.id)).Nodup := by
  obtain ⟨n, hends⟩ := endsAtRoot_of_ok hok
  obtain ⟨root, -, hcopies⟩ : ∃ root, set.IsRootOf root id ∧
      CopiesOf model root.body (set.entriesOf model settings id) := copiesOf_entriesOf hends
  rw [(composesAlong hends).entries_of_ok hok]
  exact hcopies.nodup

end ViewSet

/-- Content that shows copies of the model, each at its place, and says so if it shows none. -/
structure ShowsCopies (set : ViewSet) (model : Model) (id : Ident) (content : Content) : Prop where
  /-- No item is shown twice. -/
  nodup_ids : content.ids.Nodup
  /-- What is shown as an element is an element of the model. -/
  element_names : ∀ item ∈ content.items, ∀ e, item.item = .element e → NamesElement model e.id
  /-- What is shown as a relation is a resolved relation of the model. -/
  relation_names : ∀ item ∈ content.items, ∀ r, item.item = .relation r → NamesRelation model r.id
  /-- Every item has the index of its place. -/
  index_eq : ∀ (index : Nat) (_ : index < content.items.length),
    content.items[index].index = index
  /-- Every item is a display copy of the item of its name, as the explicit view at the end of the
  walk of bases asks for. -/
  copy : ∃ root, set.IsRootOf root id ∧ ∀ item ∈ content.items, ∃ record,
    model.item? item.item.id = some record ∧
      item.toEntry.IsCopyOf (root.body.refOf? item.item.id) record
  /-- There is one warning that the view shows nothing, or none if it shows something. -/
  warned : content.warnings.filter ViewWarning.isEmptyContent =
    if content.items.isEmpty then [.emptyContent id] else []

/-- The names that content shows are those of its entries. -/
theorem Content.ids_eq_map_entries (content : Content) :
    content.ids = content.entries.map (·.item.id) := by
  rw [ids, entries, List.map_map]
  rfl

/-- Every view of a model that is built, if it composes, shows copies of the model. -/
theorem showsCopies_of_compose {sources : List Source} {built : Built} {set : ViewSet}
    {settings : Settings} {id : Ident} {content : Content}
    (hbuilt : (Model.build sources).value = .ok built)
    (hok : (set.compose built.model settings id).value = .ok content) :
    ShowsCopies set built.model id content := by
  obtain ⟨n, hends⟩ := ViewSet.endsAtRoot_of_ok hok
  obtain ⟨view, layout, warnings, hview, hwarnings, hcontent⟩ := ViewSet.content_of_ok hok
  have hends_copies : ∃ root, set.IsRootOf root id ∧
      CopiesOf built.model root.body (set.entriesOf built.model settings id) :=
    ViewSet.copiesOf_entriesOf hends
  obtain ⟨root, hroot, hcopies⟩ := hends_copies
  have hentries : content.entries = set.entriesOf built.model settings id := by
    rw [hcontent, entries_ofEntries]
  rw [← hentries] at hcopies
  -- the entries of the content are those that the walk gives, so they are copies
  have hcopy : ∀ item ∈ content.items, ∃ record, built.model.item? item.item.id = some record ∧
      item.toEntry.IsCopyOf (root.body.refOf? item.item.id) record := by
    intro item hitem
    exact hcopies.copy item.toEntry (List.mem_map_of_mem hitem)
  refine ⟨content.ids_eq_map_entries ▸ hcopies.nodup, ?_, ?_, ?_, ⟨root, hroot, hcopy⟩, ?_⟩
  · intro item hitem e he
    obtain ⟨record, hrecord, hcopyOf⟩ := hcopy item hitem
    obtain ⟨e', rfl⟩ := hcopyOf.exists_element he
    rw [he] at hrecord
    exact namesElement_of_element? hbuilt (Model.item?_eq_some_element.1 hrecord)
  · intro item hitem r hr
    obtain ⟨record, hrecord, hcopyOf⟩ := hcopy item hitem
    obtain ⟨r', rfl⟩ := hcopyOf.exists_relation hr
    rw [hr] at hrecord
    exact namesRelation_of_relation? hbuilt (Model.relation?_of_item? hrecord)
  · intro index hindex
    subst hcontent
    simp [Content.ofEntries]
  · have hempty : content.items.isEmpty = (set.entriesOf built.model settings id).isEmpty := by
      rw [← hentries, Content.entries, List.isEmpty_map]
    rw [hempty, hcontent, Content.ofEntries]
    split
    · rw [List.filter_append, hwarnings]
      rfl
    · exact hwarnings

/-- A service and its store, and two relations, one of which leads nowhere. -/
def depotSources : List Source :=
  [{ name := "depot"
     decls :=
      [.element (.node { id := "api", kind := .modeled .container, tags := ["backend"] } []),
        .element (.node { id := "db", kind := .modeled .container,
                          tags := ["backend", "storage"] } []),
        .relation { id := "api-to-db", kind := .modeled .uses, source := "api",
                    target := "db", tags := ["backend"] },
        .relation { id := "api-to-ghost", kind := .modeled .uses, source := "api",
                    target := "ghost" }] }]

/-- A list that shows two items differently and names one item twice, one that does not resolve and
one that is not there, and two filters one after the other. -/
def depotViews : ViewSet where
  views :=
    [{ id := ⟨"all"⟩, kind := .modeled .dynamic
       body := .explicit
        [{ item := ⟨"db"⟩, order := some 2, name := some "Database" },
          { item := ⟨"ghost"⟩ }, { item := ⟨"api-to-ghost"⟩ },
          { item := ⟨"api-to-db"⟩, order := some 1, tech := some ["sql"] },
          { item := ⟨"db"⟩, name := some "Other" }, { item := ⟨"api"⟩ }] },
      { id := ⟨"backend"⟩, kind := .modeled .filtered
        body := .filtered ⟨"all"⟩ { tags := ["backend"] } },
      { id := ⟨"unstored"⟩, kind := .modeled .filtered
        body := .filtered ⟨"backend"⟩ { mode := .drop, tags := ["storage"] } }]
  distinct := by decide

/-- A model is built and a view of it composed when evaluating something of the content gives a
value. -/
theorem exists_content_of_map {α : Type} {sources : List Source} {set : ViewSet}
    {settings : Settings} {id : Ident} {observe : Content → α} {value : α}
    (h : (Model.build sources).value.toOption.map
      (fun built => (set.compose built.model settings id).value.map observe) =
        some (.ok value)) :
    ∃ built content, (Model.build sources).value = .ok built ∧
      (set.compose built.model settings id).value = .ok content ∧ observe content = value := by
  obtain ⟨built, hbuilt, hshown⟩ := exists_built_of_map h
  obtain ⟨content, hok, hvalue⟩ := exists_ok_of_map hshown
  exact ⟨built, content, hbuilt, hok, hvalue⟩

/-- A view is built and composed when evaluating both gives names. -/
theorem exists_content_of_ids {sources : List Source} {set : ViewSet} {settings : Settings}
    {id : Ident} {ids : List Ident}
    (h : (Model.build sources).value.toOption.map
      (fun built => (set.compose built.model settings id).value.map Content.ids) =
        some (.ok ids)) :
    ∃ built content, (Model.build sources).value = .ok built ∧
      (set.compose built.model settings id).value = .ok content ∧ content.ids = ids :=
  exists_content_of_map h

/-- The filtered list shows copies, in the order of the list as not all of them have a rank. -/
theorem showsCopies_depotViews :
    ∃ built content, (Model.build depotSources).value = .ok built ∧
      (depotViews.compose built.model {} ⟨"backend"⟩).value = .ok content ∧
      content.ids = [⟨"db"⟩, ⟨"api-to-db"⟩, ⟨"api"⟩] ∧
      ShowsCopies depotViews built.model ⟨"backend"⟩ content := by
  have hcontent : ∃ built content, (Model.build depotSources).value = .ok built ∧
      (depotViews.compose built.model {} ⟨"backend"⟩).value = .ok content ∧
      content.ids = [⟨"db"⟩, ⟨"api-to-db"⟩, ⟨"api"⟩] := exists_content_of_ids (by decide +kernel)
  obtain ⟨built, content, hbuilt, hok, hids⟩ := hcontent
  exact ⟨built, content, hbuilt, hok, hids, showsCopies_of_compose hbuilt hok⟩

end Viewpoint
