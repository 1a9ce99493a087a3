import Viewpoint.Composition
import Viewpoint.Proofs.View.Chain

/-!
# Composing along a walk of bases

What composing a view comes to, one lemma for each way its walk of bases goes on. The entries of a
view are those of the view at the end of its walk, narrowed by each filter on the way; they become
its content unless the view or one before it on the way is a custom view with an element of a
modeled kind.

* `ViewSet.entriesOf` are the entries of a view.
* `compose_of_root`, `compose_of_missing`, `compose_of_circle`, `compose_of_base_ok` and
  `compose_of_base_error` say what composing comes to.
-/

namespace Viewpoint

/-- The first element of a modeled kind among entries has this name. -/
def FirstModeled (entries : List Entry) (element : Ident) : Prop :=
  ∃ before entry after e, entries = before ++ entry :: after ∧ entry.item = .element e ∧
    e.kind.isCustom = false ∧ e.id = element ∧
    ∀ other ∈ before, ∀ e', other.item = .element e' → e'.kind.isCustom = true

/-- An entry is passed over unless it shows an element of a modeled kind. -/
theorem Entry.bind_element?_eq_none_iff {entry : Entry} :
    (entry.item.element?.bind fun e => if e.kind.isCustom then none else some e.id) = none ↔
      ∀ e, entry.item = .element e → e.kind.isCustom = true := by
  cases entry.item with
  | element e => cases h : e.kind.isCustom <;> simp [Item.element?, h]
  | relation r => simp [Item.element?]

/-- Looking for the first element of a modeled kind finds it. -/
theorem firstModeledElement_eq_some_iff {entries : List Entry} {element : Ident} :
    firstModeledElement entries = some element ↔ FirstModeled entries element := by
  -- what the look-up says of an entry that is not passed over
  have hsome : ∀ {entry : Entry} {id : Ident},
      (entry.item.element?.bind fun e => if e.kind.isCustom then none else some e.id) = some id ↔
        ∃ e, entry.item = .element e ∧ e.kind.isCustom = false ∧ e.id = id := by
    intro entry id
    cases entry.item with
    | element e => cases h : e.kind.isCustom <;> simp [Item.element?, h]
    | relation r => simp [Item.element?]
  rw [firstModeledElement, List.findSome?_eq_some_iff]
  constructor
  · rintro ⟨before, entry, after, rfl, hentry, hbefore⟩
    obtain ⟨e, he, hkind, hid⟩ := hsome.1 hentry
    exact ⟨before, entry, after, e, rfl, he, hkind, hid,
      fun other hother => Entry.bind_element?_eq_none_iff.1 (hbefore other hother)⟩
  · rintro ⟨before, entry, after, e, rfl, he, hkind, hid, hbefore⟩
    exact ⟨before, entry, after, rfl, hsome.2 ⟨e, he, hkind, hid⟩,
      fun other hother => Entry.bind_element?_eq_none_iff.2 (hbefore other hother)⟩

/-- It finds nothing when all elements are custom ones. -/
theorem firstModeledElement_eq_none_iff {entries : List Entry} :
    firstModeledElement entries = none ↔
      ∀ entry ∈ entries, ∀ e, entry.item = .element e → e.kind.isCustom = true := by
  rw [firstModeledElement, List.findSome?_eq_none_iff]
  exact forall₂_congr fun entry _ => Entry.bind_element?_eq_none_iff

/-- The element for which a view with these entries is refused. -/
def View.offender? (view : View) (entries : List Entry) : Option Ident :=
  if view.kind = .modeled .custom then firstModeledElement entries else none

section Finish

variable {view : View} {layout : Layout} {entries : List Entry} {warnings : List ViewWarning}

/-- A view with an offending element is refused. -/
theorem finishContent_of_offender {element : Ident} (h : view.offender? entries = some element) :
    (finishContent view layout entries warnings).value =
      .error (.invalid view.id (.nonCustomElement element)) := by
  rw [View.offender?] at h
  simp only [finishContent, h]
  rfl

/-- A view without one becomes content, with one more warning if there are no entries. -/
theorem finishContent_of_no_offender (h : view.offender? entries = none) :
    (finishContent view layout entries warnings).value =
      .ok (.ofEntries view layout entries
        (if entries.isEmpty then warnings ++ [.emptyContent view.id] else warnings)) := by
  rw [View.offender?] at h
  simp only [finishContent, h]
  rfl

/-- What is not refused becomes content. -/
theorem eq_ofEntries_of_ok {content : Content}
    (h : (finishContent view layout entries warnings).value = .ok content) :
    content = .ofEntries view layout entries
      (if entries.isEmpty then warnings ++ [.emptyContent view.id] else warnings) := by
  cases hoffender : view.offender? entries with
  | none =>
    rw [finishContent_of_no_offender hoffender] at h
    exact (Except.ok.inj h).symm
  | some element =>
    rw [finishContent_of_offender hoffender] at h
    cases h

/-- Nothing else is refused. -/
theorem exists_offender_of_error {error : ViewError}
    (h : (finishContent view layout entries warnings).value = .error error) :
    ∃ element, error = .invalid view.id (.nonCustomElement element) := by
  cases hoffender : view.offender? entries with
  | none =>
    rw [finishContent_of_no_offender hoffender] at h
    cases h
  | some element =>
    rw [finishContent_of_offender hoffender] at h
    cases h
    exact ⟨element, rfl⟩

/-- Content shows the entries that it is made of. -/
@[simp]
theorem entries_ofEntries : (Content.ofEntries view layout entries warnings).entries = entries := by
  refine List.ext_getElem? fun index => ?_
  simp [Content.entries, Content.ofEntries, Function.comp_def]

end Finish

/-- The entries that a chain gives to its view. -/
def BaseChain.entries (model : Model) (settings : Settings) : BaseChain → List Entry
  | root view => (model.ownEntries settings.selection view).value.1
  | missing _ _ => []
  | cycle _ _ => []
  | filtered _ filter base =>
    filter.narrow settings.compose.pruneDanglingRelations (base.entries model settings)

/-- A chain that ends in a circle fails with this circle, whatever view it starts at. -/
theorem BaseChain.compose_of_circle {model : Model} {settings : Settings} {chain : BaseChain}
    {path : List Ident} (h : chain.circle? = some path) :
    (chain.compose model settings).value = .error (.invalid chain.view.id (.cyclicBase path)) := by
  -- each view on the way passes the circle on under its own name
  induction chain with
  | root view => cases h
  | missing view base => cases h
  | cycle view path' =>
    cases h
    rfl
  | filtered view filter base ih =>
    rw [BaseChain.compose, Logged.value_bind, ih h]
    rfl

/-- What a failure makes of the view that filters the failing one, if there is no circle. -/
theorem BaseChain.ofBase_of_error {model : Model} {settings : Settings} {chain : BaseChain}
    {error : ViewError} (h : chain.circle? = none)
    (herror : (chain.compose model settings).value = .error error) (view base : Ident) :
    error.ofBase view base = .invalid view (.baseFailed base) := by
  -- along the chain no failure is of the kind that is passed on
  induction chain generalizing error view base with
  | root view' =>
    rw [BaseChain.compose, Logged.value_bind] at herror
    obtain ⟨element, rfl⟩ := exists_offender_of_error herror
    rfl
  | missing view' base' =>
    cases herror
    rfl
  | cycle view' path => cases h
  | filtered view' filter chain ih =>
    rw [BaseChain.compose, Logged.value_bind] at herror
    cases hbase : (chain.compose model settings).value with
    | error error' =>
      rw [hbase] at herror
      cases herror
      rw [ih h hbase]
      rfl
    | ok content =>
      rw [hbase] at herror
      obtain ⟨element, rfl⟩ := exists_offender_of_error herror
      rfl

namespace ViewSet

variable {set : ViewSet} {model : Model} {settings : Settings} {id base : Ident}
  {view baseView : View} {filter : TagFilter}

/-- The entries of the view of a name, if nothing on its walk of bases fails. -/
def entriesOf (set : ViewSet) (model : Model) (settings : Settings) (id : Ident) : List Entry :=
  match set.find? id with
  | none => []
  | some view => (set.chain view).entries model settings

/-- A view that is found is composed along its chain. -/
theorem compose_of_find? (h : set.find? id = some view) :
    set.compose model settings id = (set.chain view).compose model settings := by
  rw [compose, h]
  rfl

/-- A name without a view is refused. -/
theorem compose_of_find?_none (h : set.find? id = none) :
    (set.compose model settings id).value = .error (.notFound id) := by
  rw [compose, h]
  rfl

/-- A view that filters nothing has its own entries. -/
theorem entriesOf_of_root (h : set.find? id = some view) (hroot : view.body.base? = none) :
    set.entriesOf model settings id = (model.ownEntries settings.selection view).value.1 := by
  rw [entriesOf, h]
  simp only
  rw [chain_of_root hroot]
  rfl

/-- A filtered view has the entries of its base that pass the filter. -/
theorem entriesOf_of_base (h : set.find? id = some view) (hbody : view.body = .filtered base filter)
    (hbase : set.find? base = some baseView) (hends : WalkEnds set.base? id) :
    set.entriesOf model settings id =
      filter.narrow settings.compose.pruneDanglingRelations
        (set.entriesOf model settings base) := by
  have hid : view.id = id := id_of_find? h
  rw [entriesOf, entriesOf, h, hbase]
  simp only
  rw [chain_of_base (hid ▸ h) hbody hbase (hid ▸ hends)]
  rfl

/-- A view that filters nothing is made of its own entries. -/
theorem compose_of_root (h : set.find? id = some view) (hroot : view.body.base? = none) :
    (set.compose model settings id).value =
      (finishContent view view.layout (set.entriesOf model settings id)
        (model.ownEntries settings.selection view).value.2).value := by
  rw [compose_of_find? h, chain_of_root hroot, entriesOf_of_root h hroot]
  rfl

/-- A view whose base does not exist fails. -/
theorem compose_of_missing (h : set.find? id = some view)
    (hbody : view.body = .filtered base filter) (hbase : set.find? base = none) :
    (set.compose model settings id).value = .error (.invalid id (.missingBase base)) := by
  rw [compose_of_find? h, chain_of_missing hbody hbase, ← id_of_find? h]
  rfl

/-- A view whose walk returns fails with the circle that the walk ends in. -/
theorem compose_of_circle {i j : Nat} {entry : Ident} (h : FirstReturn set.base? id i j)
    (hentry : walk set.base? i id = some entry) :
    (set.compose model settings id).value =
      .error (.invalid id (.cyclicBase (trail set.base? (j - i + 1) entry))) := by
  have hleads : set.base? id ≠ none :=
    fun hnone => h.not_walkEnds ⟨0, id, walk_zero, hnone⟩
  obtain ⟨view, hview⟩ := exists_find?_of_base? hleads
  have hid : view.id = id := id_of_find? hview
  have hcircle : (set.chain view).circle? = some (trail set.base? (j - i + 1) entry) :=
    circle?_chain (hid ▸ hview) (hid ▸ h) (hid ▸ hentry)
  rw [compose_of_find? hview, BaseChain.compose_of_circle hcircle, chain, view_chainFrom, hid]

/-- A view whose walk of bases does not end fails with a circle. -/
theorem exists_circle_of_not_walkEnds (h : ¬ WalkEnds set.base? id) :
    ∃ path, (set.compose model settings id).value = .error (.invalid id (.cyclicBase path)) := by
  obtain ⟨i, j, hreturn⟩ := (walkEnds_or_firstReturn fun _ => mem_ids_of_base?).resolve_left h
  obtain ⟨entry, hentry⟩ := exists_walk_of_not_walkEnds h i
  exact ⟨_, compose_of_circle hreturn hentry⟩

section Base

variable (h : set.find? id = some view) (hbody : view.body = .filtered base filter)
  (hends : WalkEnds set.base? id)

include h hbody hends

/-- Where its walk ends, a filtered view waits for its base. -/
theorem compose_of_base (hbase : set.find? base = some baseView) :
    (set.compose model settings id).value =
      match (set.compose model settings base).value with
      | .error error => .error (error.ofBase id base)
      | .ok content => (finishContent view (view.layout.inherit content.layout)
          (filter.narrow settings.compose.pruneDanglingRelations content.entries) []).value := by
  have hid : view.id = id := id_of_find? h
  rw [compose_of_find? h, compose_of_find? hbase, chain_of_base (hid ▸ h) hbody hbase (hid ▸ hends),
    BaseChain.compose, Logged.value_bind]
  cases ((set.chain baseView).compose model settings).value with
  | error error =>
    rw [chain, view_chainFrom, hid, id_of_find? hbase]
    rfl
  | ok content => rfl

/-- A filtered view whose base composes is made of the entries that pass the filter. -/
theorem compose_of_base_ok {content : Content}
    (hok : (set.compose model settings base).value = .ok content) :
    (set.compose model settings id).value =
      (finishContent view (view.layout.inherit content.layout)
        (filter.narrow settings.compose.pruneDanglingRelations content.entries) []).value := by
  cases hbase : set.find? base with
  | none =>
    rw [compose_of_find?_none hbase] at hok
    cases hok
  | some baseView => rw [compose_of_base h hbody hends hbase, hok]

/-- A filtered view whose base is there and fails, fails for this reason. -/
theorem compose_of_base_error (hbase : set.find? base = some baseView) {error : ViewError}
    (herror : (set.compose model settings base).value = .error error) :
    (set.compose model settings id).value = .error (.invalid id (.baseFailed base)) := by
  have hid : baseView.id = base := id_of_find? hbase
  have hstep : set.base? id = some base := base?_of_filtered h hbody
  have hcircle : (set.chain baseView).circle? = none :=
    circle?_chain_of_walkEnds (hid ▸ hbase) (hid ▸ hends.tail hstep)
  rw [compose_of_base h hbody hends hbase, herror]
  rw [compose_of_find? hbase] at herror
  exact congrArg Except.error (BaseChain.ofBase_of_error hcircle herror id base)

/-- A filtered view that composes has a base that composes, and it is made of the entries of the
base that pass the filter. -/
theorem exists_base_of_ok (hbase : set.find? base = some baseView) {content : Content}
    (hok : (set.compose model settings id).value = .ok content) :
    ∃ baseContent, (set.compose model settings base).value = .ok baseContent ∧
      (finishContent view (view.layout.inherit baseContent.layout)
        (filter.narrow settings.compose.pruneDanglingRelations baseContent.entries) []).value =
          .ok content := by
  rw [compose_of_base h hbody hends hbase] at hok
  cases hcompose : (set.compose model settings base).value with
  | error error =>
    rw [hcompose] at hok
    cases hok
  | ok baseContent =>
    rw [hcompose] at hok
    exact ⟨baseContent, rfl, hok⟩

end Base

end ViewSet

end Viewpoint
