import Viewpoint.Proofs.Model.Forest
import Viewpoint.Proofs.View.Copies
import Viewpoint.Proofs.View.Isolation

/-!
# What an explicit list shows

An explicit list may name items that the model does not have, and it may name an item twice. Such
list entries are skipped, and what remains alone decides what is shown and in which order: the
orders of the list entries count if all that remain have one, and the places in the list decide
between equal orders.

* `Model.keptRefs` are the list entries that remain, and `Model.knownRefs_eq_keptRefs` says that
  going through the list finds them.
* `Model.ShowsRef` says that an entry is the display copy that a list entry asks for, and
  `Model.forall₂_mergeSort` that sorting list entries and display copies comes to the same.
* `ShowsList` is what a list shows and what it warns about, and `listsAsAsked` says that all
  explicit views show and warn about this.
-/

namespace Viewpoint

namespace Model

/-- The list entries that name an item of the model and do not repeat an earlier one. -/
def keptRefs (model : Model) (content : List ContentRef) : List ContentRef :=
  (content.zipIdx.filter fun (ref, place) =>
    model.contains ref.item && (content.take place).all (·.item ≠ ref.item)).map Prod.fst

/-- An entry is the record of the item that a list entry names, with what the list entry gives
instead of the record's own. -/
def ShowsRef (model : Model) (ref : ContentRef) (entry : Entry) : Prop :=
  ∃ record, model.item? ref.item = some record ∧ entry.IsCopyOf (some ref) record

/-- A list entry with its place is sorted before another one: it has a smaller order, or the same
order and an earlier place. -/
def SortedBefore (a b : ContentRef × Nat) : Prop :=
  ∃ i j, a.1.order = some i ∧ b.1.order = some j ∧ (i < j ∨ i = j ∧ a.2 < b.2)

variable {model : Model} {view : Ident} {content refs : List ContentRef} {ref : ContentRef}
  {entry : Entry}

/-- Going through the rest of a list finds the list entries that name an item and repeat neither an
earlier one of the rest nor one that came before. -/
theorem knownRefs_eq_filter (before rest : List ContentRef) {seen : List Ident}
    (hseen : ∀ id, model.contains id = true → (id ∈ seen ↔ id ∈ before.map ContentRef.item)) :
    model.knownRefs seen rest = ((rest.zipIdx before.length).filter fun (ref, place) =>
      model.contains ref.item && ((before ++ rest).take place).all (·.item ≠ ref.item)).map
        Prod.fst := by
  -- by induction on the rest, for any part of the list before it
  induction rest generalizing before seen with
  | nil => rfl
  | cons first rest ih =>
    have hkeeps : (model.contains first.item && !seen.contains first.item) =
        (model.contains first.item && before.all (·.item ≠ first.item)) := by
      cases hknown : model.contains first.item with
      | false => rfl
      | true =>
        rw [Bool.true_and, Bool.true_and, Bool.eq_iff_iff, Bool.not_eq_true',
          List.contains_eq_mem, decide_eq_false_iff_not, hseen first.item hknown]
        simp
    have hsplit : before ++ first :: rest = (before ++ [first]) ++ rest := by simp
    have hlength : before.length + 1 = (before ++ [first]).length := by simp
    rw [knownRefs, List.zipIdx_cons, List.filter_cons]
    simp only [List.take_left, hkeeps]
    split
    · next hfirst =>
      rw [List.map_cons, hsplit, hlength, ← ih]
      intro id hid
      simp [hseen id hid, or_comm]
    · next hfirst =>
      rw [hsplit, hlength, ← ih]
      intro id hid
      -- an entry that is skipped names no item, or one that is seen
      have hskipped : id = first.item → id ∈ seen := by
        rintro rfl
        rw [← hkeeps] at hfirst
        simpa [hid] using hfirst
      rw [List.map_append, List.mem_append, ← hseen id hid, List.map_singleton,
        List.mem_singleton, or_iff_left_of_imp hskipped]

/-- Going through a list finds the entries that name an item and do not repeat an earlier one. -/
theorem knownRefs_eq_keptRefs (model : Model) (content : List ContentRef) :
    model.knownRefs [] content = model.keptRefs content :=
  knownRefs_eq_filter [] content fun _ _ => Iff.rfl

/-- A list entry that is kept names an item. -/
theorem contains_of_mem_keptRefs (h : ref ∈ model.keptRefs content) :
    model.contains ref.item = true :=
  (mem_knownRefs (knownRefs_eq_keptRefs model content ▸ h)).1

/-- Going through what is kept finds all of it again. -/
theorem knownRefs_knownRefs (seen : List Ident) :
    model.knownRefs seen (model.knownRefs seen content) = model.knownRefs seen content := by
  induction content generalizing seen with
  | nil => rfl
  | cons first rest ih =>
    rw [knownRefs]
    split
    · next hfirst => rw [knownRefs, if_pos hfirst, ih]
    · exact ih seen

/-- What is kept of a list is all kept when it is a list of its own. -/
theorem keptRefs_keptRefs (model : Model) (content : List ContentRef) :
    model.keptRefs (model.keptRefs content) = model.keptRefs content := by
  simp only [← knownRefs_eq_keptRefs, knownRefs_knownRefs]

/-- An entry has the order of the list entry that asks for it. -/
theorem ShowsRef.order_eq (h : model.ShowsRef ref entry) : entry.order = ref.order := by
  obtain ⟨record, -, hcopy⟩ := h
  exact hcopy.order

/-- The display copies of list entries that name items are as these ask for. -/
theorem forall₂_showsRef (h : ∀ ref ∈ refs, model.contains ref.item = true) :
    List.Forall₂ model.ShowsRef refs (refs.filterMap model.entryOfRef?) := by
  induction refs with
  | nil => exact .nil
  | cons first rest ih =>
    obtain ⟨hfirst, hrest⟩ := List.forall_mem_cons.1 h
    obtain ⟨record, hrecord⟩ := Option.isSome_iff_exists.1 hfirst
    have hentry : model.entryOfRef? first = some ⟨first.order, first.override record⟩ := by
      rw [entryOfRef?, hrecord, Option.map_some]
    rw [List.filterMap_cons_some hentry]
    exact .cons ⟨record, hrecord, Entry.isCopyOf_override first record⟩ (ih hrest)

/-- Lists of related members stay related when both are sorted by comparisons that agree on related
members. -/
theorem forall₂_mergeSort {α β : Type} {rel : α → β → Prop} {le : α → α → Bool}
    {le' : β → β → Bool} {as : List α} {bs : List β} (h : List.Forall₂ rel as bs)
    (hagree : ∀ {a a' b b'}, rel a b → rel a' b' → le a a' = le' b b') :
    List.Forall₂ rel (as.mergeSort le) (bs.mergeSort le') := by
  obtain ⟨hlength, hrel⟩ := List.forall₂_iff_zip.1 h
  -- both sorted lists come from the list of pairs, sorted by either comparison
  have hfst : (as.mergeSort le) = ((as.zip bs).mergeSort fun p q => le p.1 q.1).map Prod.fst := by
    rw [List.map_mergeSort (f := Prod.fst) (s := le) fun _ _ _ _ => rfl,
      List.map_fst_zip hlength.le]
  have hsnd : (bs.mergeSort le') = ((as.zip bs).mergeSort fun p q => le p.1 q.1).map Prod.snd := by
    rw [List.map_mergeSort (f := Prod.snd) (s := le') fun p hp q hq => hagree (hrel hp) (hrel hq),
      List.map_snd_zip hlength.ge]
  rw [hfst, hsnd, List.forall₂_map_left_iff, List.forall₂_map_right_iff, List.forall₂_same]
  exact fun p hp => hrel ((List.mergeSort_perm _ _).mem_iff.1 hp)

/-- List entries that have orders are compared by them and, where these are equal, by their
places. -/
theorem sortedBefore_of_zipIdxLE {a b : ContentRef × Nat} {i j : Int} (hi : a.1.order = some i)
    (hj : b.1.order = some j) (hne : a.2 ≠ b.2)
    (hle : List.zipIdxLE (fun a b => decide (a.order.getD 0 ≤ b.order.getD 0)) a b = true) :
    SortedBefore a b := by
  refine ⟨i, j, hi, hj, ?_⟩
  simp only [List.zipIdxLE, hi, hj, Option.getD_some, decide_eq_true_eq] at hle
  split at hle
  · next hij =>
    split at hle
    · next hji =>
      have hplace : a.2 ≤ b.2 := of_decide_eq_true hle
      exact Or.inr ⟨le_antisymm hij hji, lt_of_le_of_ne hplace hne⟩
    · next hji => exact Or.inl (Int.lt_of_not_ge hji)
  · cases hle

/-- Sorting list entries that have orders sorts them by order and then by place. -/
theorem exists_sortedBefore (hordered : ∀ ref ∈ refs, ref.order.isSome) :
    ∃ placed : List (ContentRef × Nat), placed.Perm refs.zipIdx ∧ placed.Pairwise SortedBefore ∧
      placed.map Prod.fst = refs.mergeSort fun a b => a.order.getD 0 ≤ b.order.getD 0 := by
  let le : ContentRef → ContentRef → Bool := fun a b => a.order.getD 0 ≤ b.order.getD 0
  have hperm := List.mergeSort_perm refs.zipIdx (List.zipIdxLE le)
  refine ⟨refs.zipIdx.mergeSort (List.zipIdxLE le), hperm, ?_, List.mergeSort_zipIdx⟩
  have htrans : ∀ a b c, le a b = true → le b c = true → le a c = true := by
    intro a b c hab hbc
    simp only [le, decide_eq_true_eq] at hab hbc ⊢
    exact hab.trans hbc
  have htotal : ∀ a b, (le a b || le b a) = true := by
    intro a b
    simp only [le, Bool.or_eq_true, decide_eq_true_eq]
    exact le_total _ _
  have hsorted := List.pairwise_mergeSort (List.zipIdxLE_trans htrans)
    (List.zipIdxLE_total htotal) refs.zipIdx
  -- no two list entries stand at the same place
  have hplaces : (refs.zipIdx.mergeSort (List.zipIdxLE le)).Pairwise fun a b => a.2 ≠ b.2 :=
    (hperm.pairwise_iff Ne.symm).2 ((pairwise_snd_zipIdx refs).imp Nat.ne_of_lt)
  refine (hsorted.and hplaces).imp_of_mem fun {a b} ha hb ⟨hle, hne⟩ => ?_
  have horder : ∀ p ∈ refs.zipIdx.mergeSort (List.zipIdxLE le), ∃ i, p.1.order = some i := by
    intro p hp
    exact Option.isSome_iff_exists.1 (hordered _ (List.fst_mem_of_mem_zipIdx (hperm.mem_iff.1 hp)))
  obtain ⟨i, hi⟩ := horder a ha
  obtain ⟨j, hj⟩ := horder b hb
  exact sortedBefore_of_zipIdxLE hi hj hne hle

/-- The display copies that a list asks for, before they are sorted, are as it asks for. -/
theorem forall₂_keptRefs (model : Model) (content : List ContentRef) :
    List.Forall₂ model.ShowsRef (model.keptRefs content)
      ((model.keptRefs content).filterMap model.entryOfRef?) :=
  forall₂_showsRef fun _ => contains_of_mem_keptRefs

/-- All entries have orders when all list entries have some that are shown by them. -/
theorem all_isSome_order_iff {entries : List Entry}
    (h : List.Forall₂ model.ShowsRef refs entries) :
    entries.all (·.order.isSome) = true ↔ ∀ ref ∈ refs, ref.order.isSome := by
  induction h with
  | nil => simp
  | cons hfirst hrest ih =>
    rw [List.all_cons, Bool.and_eq_true, hfirst.order_eq, ih, List.forall_mem_cons]

/-- If all list entries that are kept have orders, they are shown sorted. -/
theorem listedEntries_of_ordered (h : ∀ ref ∈ model.keptRefs content, ref.order.isSome) :
    List.Forall₂ model.ShowsRef
      ((model.keptRefs content).mergeSort fun a b => a.order.getD 0 ≤ b.order.getD 0)
      (model.listedEntries content) := by
  have hshows := forall₂_keptRefs model content
  rw [listedEntries, knownRefs_eq_keptRefs, if_pos ((all_isSome_order_iff hshows).2 h)]
  refine forall₂_mergeSort hshows fun ha hb => ?_
  rw [ha.order_eq, hb.order_eq]

/-- If one of them has none, they are shown as they stand in the list. -/
theorem listedEntries_of_unordered (h : ∃ ref ∈ model.keptRefs content, ref.order = none) :
    List.Forall₂ model.ShowsRef (model.keptRefs content) (model.listedEntries content) := by
  have hshows := forall₂_keptRefs model content
  obtain ⟨ref, href, hnone⟩ := h
  rw [listedEntries, knownRefs_eq_keptRefs, if_neg]
  · exact hshows
  · rw [all_isSome_order_iff hshows]
    intro hall
    have hsome := hall ref href
    rw [hnone] at hsome
    cases hsome

end Model

/-- What a list shows and what it warns about. -/
structure ShowsList (model : Model) (view : Ident) (content : List ContentRef)
    (entries : List Entry) (warnings : List ViewWarning) : Prop where
  /-- If all list entries that are kept have orders, they are shown sorted. -/
  sorted : (∀ ref ∈ model.keptRefs content, ref.order.isSome) →
    ∃ placed : List (ContentRef × Nat), placed.Perm (model.keptRefs content).zipIdx ∧
      placed.Pairwise Model.SortedBefore ∧
        List.Forall₂ model.ShowsRef (placed.map Prod.fst) entries
  /-- Otherwise they are shown as they stand in the list. -/
  unsorted : (∃ ref ∈ model.keptRefs content, ref.order = none) →
    List.Forall₂ model.ShowsRef (model.keptRefs content) entries
  /-- Every list entry without an item is warned about, and behind them that some of those that are
  kept have orders and some have none. -/
  warnings_eq : warnings =
    (content.filter fun ref => !model.contains ref.item).map
        (fun ref => .unknownItem view ref.item) ++
      if (∃ ref ∈ model.keptRefs content, ref.order.isSome) ∧
          ∃ ref ∈ model.keptRefs content, ref.order = none
        then [.mixedOrder view] else []

/-- Explicit views show and warn about what their lists ask for. -/
structure ListsAsAsked (model : Model) : Prop where
  /-- A view by itself does. -/
  own : ∀ (settings : SelectionSettings) (view : View) (content : List ContentRef),
    view.body = .explicit content →
      ShowsList model view.id content (model.ownEntries settings view).value.1
        (model.ownEntries settings view).value.2
  /-- What is skipped of the list does not matter, except that unknown items are warned about. -/
  skipped : ∀ (settings : SelectionSettings) (view : View) (content : List ContentRef),
    view.body = .explicit content →
      (model.ownEntries settings { view with body := .explicit (model.keptRefs content) }).value =
        ((model.ownEntries settings view).value.1,
          (model.ownEntries settings view).value.2.filter (· = .mixedOrder view.id))
  /-- A view that composes in a set of views does, with one more warning if it shows nothing. -/
  composed : ∀ (set : ViewSet) (settings : Settings) (view : View) (content : List ContentRef)
    (composed : Content), view ∈ set.views → view.body = .explicit content →
      (set.compose model settings view.id).value = .ok composed →
        ∃ warnings, ShowsList model view.id content composed.entries warnings ∧
          composed.warnings =
            if composed.entries.isEmpty then warnings ++ [.emptyContent view.id] else warnings
  /-- Only a custom view may not compose. -/
  composes : ∀ (set : ViewSet) (settings : Settings) (view : View) (content : List ContentRef),
    view ∈ set.views → view.body = .explicit content → view.kind ≠ .modeled .custom →
      ∃ composed, (set.compose model settings view.id).value = .ok composed

section

variable (model : Model) (view : Ident) (content : List ContentRef)

/-- The entries and the warnings of a list are as it asks for. -/
theorem showsList_listedEntries :
    ShowsList model view content (model.listedEntries content)
      (model.listWarnings view content) := by
  refine ⟨fun hordered => ?_, Model.listedEntries_of_unordered, ?_⟩
  · obtain ⟨placed, hperm, hsorted, hplaced⟩ := Model.exists_sortedBefore hordered
    exact ⟨placed, hperm, hsorted, hplaced ▸ Model.listedEntries_of_ordered hordered⟩
  · rw [Model.listWarnings, Model.knownRefs_eq_keptRefs]
    simp only [Bool.and_eq_true, List.any_eq_true, Option.isNone_iff_eq_none]

/-- A list of what is kept shows the same. -/
theorem listedEntries_keptRefs :
    model.listedEntries (model.keptRefs content) = model.listedEntries content := by
  simp only [Model.listedEntries, Model.knownRefs_eq_keptRefs, Model.keptRefs_keptRefs]

/-- A list of what is kept is not warned about for unknown items, and for orders as before. -/
theorem listWarnings_keptRefs :
    model.listWarnings view (model.keptRefs content) =
      (model.listWarnings view content).filter (· = .mixedOrder view) := by
  have hknown : (model.keptRefs content).filter (fun ref => !model.contains ref.item) = [] := by
    rw [List.filter_eq_nil_iff]
    intro ref href
    rw [Model.contains_of_mem_keptRefs href]
    exact Bool.false_ne_true
  simp only [Model.listWarnings, Model.knownRefs_eq_keptRefs, Model.keptRefs_keptRefs, hknown]
  rw [List.map_nil, List.nil_append, List.filter_append, List.filter_map]
  split <;> simp [Function.comp_def]

/-- An explicit view of a set is composed of what its list shows and warns about. -/
theorem compose_of_explicit {set : ViewSet} {settings : Settings} {view : View}
    (hview : view ∈ set.views) (hbody : view.body = .explicit content) :
    (set.compose model settings view.id).value =
      (finishContent view view.layout (model.listedEntries content)
        (model.listWarnings view.id content)).value := by
  have hfind : set.find? view.id = some view := ViewSet.find?_of_mem hview
  have hroot : view.body.base? = none := by
    rw [hbody]
    rfl
  rw [ViewSet.compose_of_root hfind hroot, ViewSet.entriesOf_of_root hfind hroot, Model.ownEntries,
    hbody]
  rfl

end

/-- In every model explicit views show and warn about what their lists ask for. -/
theorem listsAsAsked (model : Model) : ListsAsAsked model where
  own settings view content hbody := by
    rw [Model.ownEntries, hbody]
    exact showsList_listedEntries model view.id content
  skipped settings view content hbody := by
    simp only [Model.ownEntries, hbody, Logged.value_pure, listedEntries_keptRefs,
      listWarnings_keptRefs]
  composed set settings view content composed hview hbody hok := by
    rw [compose_of_explicit model content hview hbody] at hok
    rw [eq_ofEntries_of_ok hok, entries_ofEntries]
    exact ⟨_, showsList_listedEntries model view.id content, rfl⟩
  composes set settings view content hview hbody hkind := by
    -- only custom views are refused for what they show
    have hoffender : view.offender? (model.listedEntries content) = none := if_neg hkind
    exact ⟨_, (compose_of_explicit model content hview hbody).trans
      (finishContent_of_no_offender hoffender)⟩

/-- A list for the model of the two sources. It names an unknown item twice, and it repeats the
queue without an order. -/
def shopList : List ContentRef :=
  [{ item := ⟨"shop/queue"⟩, order := some 2, name := some "" }, { item := ⟨"ghost"⟩ },
    { item := ⟨"shop/web"⟩, order := some 2 }, { item := ⟨"shop/queue"⟩ },
    { item := ⟨"ghost"⟩, order := some 1 },
    { item := ⟨"db"⟩, order := some (-9223372036854775808) }]

/-- The three items of the list are shown sorted, as what is skipped does not count. -/
theorem listsAsAsked_shopList :
    ∃ built, (Model.build shopSources).value = .ok built ∧
      built.model.listWarnings ⟨"list"⟩ shopList =
        [.unknownItem ⟨"list"⟩ ⟨"ghost"⟩, .unknownItem ⟨"list"⟩ ⟨"ghost"⟩] ∧
      List.Forall₂ built.model.ShowsRef
        [{ item := ⟨"db"⟩, order := some (-9223372036854775808) },
          { item := ⟨"shop/queue"⟩, order := some 2, name := some "" },
          { item := ⟨"shop/web"⟩, order := some 2 }]
        (built.model.listedEntries shopList) ∧
      ListsAsAsked built.model := by
  obtain ⟨built, hbuilt, hobserved⟩ : ∃ built, (Model.build shopSources).value = .ok built ∧
      (built.model.keptRefs shopList, built.model.listWarnings ⟨"list"⟩ shopList) =
        ([{ item := ⟨"shop/queue"⟩, order := some 2, name := some "" },
          { item := ⟨"shop/web"⟩, order := some 2 },
          { item := ⟨"db"⟩, order := some (-9223372036854775808) }],
          [.unknownItem ⟨"list"⟩ ⟨"ghost"⟩, .unknownItem ⟨"list"⟩ ⟨"ghost"⟩]) :=
    exists_built_of_map (by decide +kernel)
  obtain ⟨hkept, hwarnings⟩ := Prod.mk.inj hobserved
  have hordered : ∀ ref ∈ built.model.keptRefs shopList, ref.order.isSome := by
    rw [hkept]
    decide
  have hshown := Model.listedEntries_of_ordered hordered
  rw [hkept] at hshown
  exact ⟨built, hbuilt, hwarnings, by simpa [List.mergeSort] using hshown,
    listsAsAsked built.model⟩

end Viewpoint
