import Viewpoint.Exchange.Writing
import Viewpoint.Pattern
import Viewpoint.Proofs.View.Isolation
import Viewpoint.Proofs.View.Reading

/-!
# Views in their places

The views of a document that can be read are composed as a set, and what comes of them is put back
between the faults of the others. Places are filled in turn. Before each of them, what is left of
the faults and of the outcomes is exactly what the views from there on lead to, so every view is
reported at its own place and something is left for every place.

* `Filling.Awaits` is what holds before each place; `Filling.Awaits.fill` fills one place and
  `Filling.Awaits.fillAll` fills the places of a run.
* `ReportsInPlace` says what a report of all views lists, and `reportsInPlace_of_ofDecls` that this
  holds for all views that go together.
-/

namespace Viewpoint

/-- The name of the view that an outcome is about. -/
def ViewOutcome.view : ViewOutcome → Ident
  | .ok content => content.view
  | .error error => error.view

/-- An outcome is written with the name of its view. -/
theorem ViewOutcome.get?_json (outcome : ViewOutcome) :
    (ViewOutcome.json outcome).get? "view" = some (ViewOutcome.view outcome).json := by
  cases outcome with
  | ok content => rfl
  | error error => rfl

section Names

variable {model : Model} {settings : Settings}

/-- Whether or not a view is refused for its entries, the outcome is about this view. -/
theorem view_finishContent (view : View) (layout : Layout) (entries : List Entry)
    (warnings : List ViewWarning) :
    ViewOutcome.view (finishContent view layout entries warnings).value = view.id := by
  cases hoffender : view.offender? entries with
  | none =>
    rw [finishContent_of_no_offender hoffender]
    rfl
  | some element =>
    rw [finishContent_of_offender hoffender]
    rfl

/-- The failure of a base becomes one of the view that filters it. -/
theorem ViewError.view_ofBase (error : ViewError) (view base : Ident) :
    (error.ofBase view base).view = view := by
  cases error with
  | invalid _ reason => cases reason <;> rfl
  | duplicateView _ => rfl
  | notFound _ => rfl
  | criteria _ _ => rfl

/-- The outcome of composing along a chain is about the view at its start. -/
theorem BaseChain.view_compose (chain : BaseChain) :
    ViewOutcome.view (chain.compose model settings).value = chain.view.id := by
  cases chain with
  | root view => exact view_finishContent view _ _ _
  | missing view base => rfl
  | cycle view path => rfl
  | filtered view filter base =>
    rw [compose, Logged.value_bind]
    cases (base.compose model settings).value with
    | error error => exact error.view_ofBase view.id base.view.id
    | ok content => exact view_finishContent view _ _ _

/-- The outcome of composing a view of a set is about this view. -/
theorem ViewSet.view_composeView (set : ViewSet) (view : View) :
    ViewOutcome.view (set.composeView model settings view).value = view.id := by
  rw [composeView, BaseChain.view_compose, chain, view_chainFrom]

/-- A view is refused, or composed, under its name as written. -/
theorem ViewDecl.view_outcome [PatternEngine] (decl : ViewDecl) {compose : View → ViewOutcome}
    (hcompose : ∀ view, ViewOutcome.view (compose view) = view.id) :
    ViewOutcome.view (decl.view >>= compose) = decl.id := by
  cases hview : decl.view with
  | error error => exact (refusal_of_view hview).view_eq
  | ok view => exact (hcompose view).trans (id_of_view hview)

end Names

/-- Faults are counted from the place of the first view. -/
theorem le_position_of_mem_faultsFrom {position : Nat} {reads : List (Except ViewError View)}
    {fault : ViewFault} (h : fault ∈ faultsFrom position reads) : position ≤ fault.position := by
  -- by induction on the views, from any place: behind the first one the places are larger still
  induction reads generalizing position with
  | nil => cases h
  | cons read rest ih =>
    cases read with
    | ok view => exact Nat.le_of_succ_le (ih h)
    | error error =>
      rcases List.mem_cons.1 h with rfl | h
      · exact le_rfl
      · exact Nat.le_of_succ_le (ih h)

namespace Filling

variable {compose : View → ViewOutcome} {filling : Filling} {position : Nat}
  {reads before after : List (Except ViewError View)}

/-- Before a place, what is left to be placed is what the views from there on lead to: the faults of
those that could not be read, and the outcomes of composing the others. -/
structure Awaits (compose : View → ViewOutcome) (filling : Filling) (position : Nat)
    (reads : List (Except ViewError View)) : Prop where
  /-- The faults that are left. -/
  faults : filling.faults = faultsFrom position reads
  /-- The outcomes that are left. -/
  composed : filling.composed = (reads.filterMap Except.toOption).map compose

/-- A place is filled with the next outcome where no fault belongs. -/
theorem fill_of_no_fault (h : ∀ fault ∈ filling.faults, fault.position ≠ position) :
    filling.fill position = filling.placeComposed := by
  rw [fill]
  cases hfaults : filling.faults with
  | nil => rfl
  | cons fault rest => exact if_neg (h fault (hfaults ▸ List.mem_cons_self))

/-- A place is filled with what its view leads to, and then the views behind it are awaited. -/
theorem Awaits.fill {read : Except ViewError View}
    (h : filling.Awaits compose position (read :: after)) :
    ∃ next, filling.fill position = some next ∧ next.Awaits compose (position + 1) after ∧
      next.placed = filling.placed ++ [read >>= compose] := by
  cases read with
  | error error =>
    have hfaults : filling.faults = ⟨position, error⟩ :: faultsFrom (position + 1) after := h.faults
    rw [Filling.fill, hfaults]
    exact ⟨_, if_pos rfl, ⟨rfl, h.composed⟩, rfl⟩
  | ok view =>
    have hfaults : filling.faults = faultsFrom (position + 1) after := h.faults
    have hcomposed : filling.composed =
        compose view :: (after.filterMap Except.toOption).map compose := h.composed
    -- all faults that are left belong to later places
    have hlater : ∀ fault ∈ filling.faults, fault.position ≠ position := by
      intro fault hfault
      rw [hfaults] at hfault
      exact (Nat.lt_of_succ_le (le_position_of_mem_faultsFrom hfault)).ne'
    rw [fill_of_no_fault hlater, placeComposed, hcomposed]
    exact ⟨_, rfl, ⟨hfaults, rfl⟩, rfl⟩

/-- A run of places is filled with what their views lead to, and then the views behind them are
awaited. -/
theorem Awaits.fillAll (h : filling.Awaits compose position (before ++ after)) :
    (filling.fillAll (List.range' position before.length)).Awaits compose
        (position + before.length) after ∧
      (filling.fillAll (List.range' position before.length)).placed =
        filling.placed ++ before.map (· >>= compose) := by
  -- by induction on the views of the run, from any place and with anything placed before it
  induction before generalizing filling position with
  | nil => exact ⟨h, (List.append_nil _).symm⟩
  | cons read rest ih =>
    obtain ⟨next, hfill, hnext, hplaced⟩ := h.fill
    obtain ⟨hawaits, hrest⟩ := ih hnext
    rw [List.length_cons, List.range'_succ, Filling.fillAll, hfill]
    refine ⟨?_, ?_⟩
    · rwa [← Nat.add_assoc, Nat.add_right_comm]
    · rw [hrest, hplaced, List.append_assoc, List.map_cons, List.singleton_append]

end Filling

/-- What a report of all views lists, place by place. -/
structure ReportsInPlace [PatternEngine] (model : Model) (settings : Settings)
    (decls : List ViewDecl) (views : DocumentViews) (outcomes : List ViewOutcome) : Prop where
  /-- The set holds the views that can be read, in order. -/
  views_eq : views.set.views = decls.filterMap fun decl => decl.view.toOption
  /-- There is an entry for every view. -/
  length_eq : outcomes.length = decls.length
  /-- Every entry is written with the name of the view at its place. -/
  named : ∀ (position : Nat) (decl : ViewDecl), decls[position]? = some decl →
    ∃ outcome, outcomes[position]? = some outcome ∧
      (ViewOutcome.json outcome).get? "view" = some decl.id.json
  /-- The entry of a view that cannot be read is its fault. -/
  refused : ∀ (position : Nat) (decl : ViewDecl) (error : ViewError),
    decls[position]? = some decl → decl.view = .error error →
      outcomes[position]? = some (.error error)
  /-- The entry of any other view is what composing it in the set leads to. -/
  composed : ∀ (position : Nat) (decl : ViewDecl) (view : View),
    decls[position]? = some decl → decl.view = .ok view →
      views.set.find? decl.id = some view ∧
        outcomes[position]? = some (views.set.compose model settings decl.id).value
  /-- When the turn of a place comes, something is left to fill it with. -/
  filled : ∀ filling : Filling, filling.faults = views.faults →
    filling.composed = (views.set.composeAll model settings).value →
      ∀ position < views.declared,
        ((filling.fillAll (List.range position)).fill position).isSome

/-- A set of views holds the given ones. -/
theorem ViewSet.views_of_ofViews {views : List View} {set : ViewSet} (h : ofViews views = .ok set) :
    set.views = views := by
  rw [ofViews] at h
  split at h
  · cases h
  · cases h
    rfl

namespace DocumentViews

variable [PatternEngine] {model : Model} {settings : Settings} {decls : List ViewDecl}
  {views : DocumentViews}

/-- Reading views keeps those that can be read in order, and it keeps the faults of the others. -/
theorem ofDecls_eq_ok (h : ofDecls decls = .ok views) :
    views.set.views = (decls.map ViewDecl.view).filterMap Except.toOption ∧
      views.faults = faultsFrom 0 (decls.map ViewDecl.view) ∧ views.declared = decls.length := by
  simp only [ofDecls] at h
  cases hset : ViewSet.ofViews ((decls.map ViewDecl.view).filterMap Except.toOption) with
  | error error =>
    rw [hset] at h
    cases h
  | ok set =>
    rw [hset] at h
    cases h
    exact ⟨ViewSet.views_of_ofViews hset, rfl, rfl⟩

section

variable (h : ofDecls decls = .ok views)

include h

/-- A view that can be read is found under its name. -/
theorem find?_of_view {decl : ViewDecl} (hdecl : decl ∈ decls) {view : View}
    (hview : decl.view = .ok view) : views.set.find? decl.id = some view := by
  rw [← ViewDecl.id_of_view hview]
  refine ViewSet.find?_of_mem ?_
  rw [(ofDecls_eq_ok h).1]
  exact List.mem_filterMap.2 ⟨decl.view, List.mem_map_of_mem hdecl, by rw [hview]; rfl⟩

/-- Before the first place all views are awaited. -/
theorem awaits_of_ofDecls {filling : Filling} (hfaults : filling.faults = views.faults)
    (hcomposed : filling.composed = (views.set.composeAll model settings).value) :
    filling.Awaits (fun view => (views.set.composeView model settings view).value) 0
      (decls.map ViewDecl.view) := by
  obtain ⟨hviews, hall, -⟩ := ofDecls_eq_ok h
  refine ⟨hfaults.trans hall, ?_⟩
  rw [hcomposed, ViewSet.composeAll, Logged.value_mapM, hviews]

/-- What all views lead to is what each of them leads to. -/
theorem value_composeAll : (views.composeAll model settings).value = decls.map fun decl =>
    decl.view >>= fun view => (views.set.composeView model settings view).value := by
  have hawaits : Filling.Awaits (fun view => (views.set.composeView model settings view).value)
      { faults := views.faults, composed := (views.set.composeAll model settings).value } 0
      (decls.map ViewDecl.view) := awaits_of_ofDecls h rfl rfl
  -- the run takes up all places, so no view is awaited behind it
  rw [← List.append_nil (decls.map ViewDecl.view)] at hawaits
  obtain ⟨-, hplaced⟩ := hawaits.fillAll
  rw [List.length_map, ← (ofDecls_eq_ok h).2.2, ← List.range_eq_range', List.nil_append,
    List.map_map] at hplaced
  exact hplaced

/-- For every place something is left. -/
theorem isSome_fill {filling : Filling} (hfaults : filling.faults = views.faults)
    (hcomposed : filling.composed = (views.set.composeAll model settings).value) {position : Nat}
    (hposition : position < views.declared) :
    ((filling.fillAll (List.range position)).fill position).isSome := by
  have hawaits := awaits_of_ofDecls h hfaults hcomposed
  have hlt : position < (decls.map ViewDecl.view).length := by
    rwa [List.length_map, ← (ofDecls_eq_ok h).2.2]
  -- the places before are a run of their own, behind which the view of this place is awaited
  rw [← List.take_append_drop position (decls.map ViewDecl.view),
    List.drop_eq_getElem_cons hlt] at hawaits
  obtain ⟨hrest, -⟩ := hawaits.fillAll
  rw [List.length_take_of_le hlt.le, Nat.zero_add, ← List.range_eq_range'] at hrest
  obtain ⟨next, hfill, -⟩ := hrest.fill
  rw [hfill]
  rfl

/-- All views are reported in place. -/
theorem reportsInPlace (model : Model) (settings : Settings) :
    ReportsInPlace model settings decls views (views.composeAll model settings).value where
  views_eq := (ofDecls_eq_ok h).1.trans List.filterMap_map
  length_eq := by rw [value_composeAll h, List.length_map]
  named := by
    intro position decl hdecl
    refine ⟨_, by rw [value_composeAll h, List.getElem?_map, hdecl, Option.map_some], ?_⟩
    rw [ViewOutcome.get?_json, decl.view_outcome views.set.view_composeView]
  refused := by
    intro position decl error hdecl herror
    rw [value_composeAll h, List.getElem?_map, hdecl, Option.map_some, herror]
    rfl
  composed := by
    intro position decl view hdecl hview
    have hfind := find?_of_view h (List.mem_of_getElem? hdecl) hview
    refine ⟨hfind, ?_⟩
    rw [value_composeAll h, List.getElem?_map, hdecl, Option.map_some, hview,
      ViewSet.compose_of_find? hfind]
    rfl
  filled _ hfaults hcomposed _ hposition := isSome_fill h hfaults hcomposed hposition

end

end DocumentViews

end Viewpoint
