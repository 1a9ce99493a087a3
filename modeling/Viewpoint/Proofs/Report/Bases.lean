import Viewpoint.Proofs.Report.InPlace
import Viewpoint.Proofs.View.Outcome
import Viewpoint.Report.Request

/-!
# Bases in reports

Views are read before they are composed, and bases are looked up among the views that could be read.
So a report says that a base does not exist where no view of this name could be read, and otherwise
what it says of a filtered view depends on what becomes of its base: a view whose base fails fails
for this reason, unless the bases run in a circle, in which case all views that lead into the circle
fail for the circle.

* `ViewSet.isCircle_iff` says which failures are due to a circle.
* `ReportsBases` says what a report tells about the bases of views, and `reportsBases_of_report`
  that this holds for every document whose views are reported.
-/

namespace Viewpoint

/-- A view fails because bases run in a circle. -/
def ViewError.IsCircle (error : ViewError) : Prop :=
  ∃ view path, error = .invalid view (.cyclicBase path)

namespace ViewSet

variable {set : ViewSet} {model : Model} {settings : Settings} {id base : Ident}
  {view baseView : View} {filter : TagFilter} {error : ViewError}

/-- A view fails because of a circle exactly when its walk of bases does not end. -/
theorem isCircle_iff (herror : (set.compose model settings id).value = .error error) :
    error.IsCircle ↔ ¬ WalkEnds set.base? id := by
  constructor
  · rintro ⟨name, path, rfl⟩ hends
    cases hview : set.find? id with
    | none =>
      rw [compose_of_find?_none hview] at herror
      cases herror
    | some view =>
      have hid : view.id = id := id_of_find? hview
      have hcircle : (set.chain view).circle? = none :=
        circle?_chain_of_walkEnds (hid ▸ hview) (hid ▸ hends)
      rw [compose_of_find? hview] at herror
      -- without a circle the failure is not of the kind that views pass on
      have hpassed := BaseChain.ofBase_of_error hcircle herror id id
      cases hpassed
  · intro hends
    obtain ⟨path, hpath⟩ := exists_circle_of_not_walkEnds hends
    rw [hpath] at herror
    cases herror
    exact ⟨id, path, rfl⟩

section Base

variable (h : set.find? id = some view) (hbody : view.body = .filtered base filter)

include h hbody

/-- A filtered view whose base fails, but not because of a circle, fails with its base. -/
theorem compose_of_base_failed (hbase : set.find? base = some baseView)
    (herror : (set.compose model settings base).value = .error error) (hcircle : ¬ error.IsCircle) :
    (set.compose model settings id).value = .error (.invalid id (.baseFailed base)) := by
  have hends : WalkEnds set.base? base := not_not.1 (mt (isCircle_iff herror).2 hcircle)
  exact compose_of_base_error h hbody (hends.of_next (base?_of_filtered h hbody)) hbase herror

/-- A filtered view whose base fails because of a circle fails because of the circle. -/
theorem compose_of_base_circle (herror : (set.compose model settings base).value = .error error)
    (hcircle : error.IsCircle) :
    ∃ path, (set.compose model settings id).value = .error (.invalid id (.cyclicBase path)) :=
  exists_circle_of_not_walkEnds fun hends =>
    (isCircle_iff herror).1 hcircle (hends.tail (base?_of_filtered h hbody))

end Base

/-- A view is said to lack a base only if it filters one that is not in the set. -/
theorem exists_filtered_of_missingBase {name : Ident}
    (herror : (set.compose model settings id).value = .error (.invalid name (.missingBase base))) :
    ∃ view filter, set.find? id = some view ∧ view.body = .filtered base filter ∧
      set.find? base = none := by
  cases hview : set.find? id with
  | none =>
    rw [compose_of_find?_none hview] at herror
    cases herror
  | some view =>
    cases hstep : view.body.base? with
    | none =>
      rw [compose_of_root hview hstep] at herror
      obtain ⟨element, hreason⟩ := exists_offender_of_error herror
      cases hreason
    | some base' =>
      obtain ⟨filter, hbody⟩ := ViewBody.eq_filtered_of_base? hstep
      cases hbase : set.find? base' with
      | none =>
        rw [compose_of_missing hview hbody hbase] at herror
        cases herror
        exact ⟨view, filter, rfl, hbody, hbase⟩
      -- where the base is there, the view fails for its base, for a circle or for its own entries
      | some baseView =>
        cases hcompose : (set.compose model settings base').value with
        | error error =>
          by_cases hcircle : error.IsCircle
          · obtain ⟨path, hpath⟩ := compose_of_base_circle hview hbody hcompose hcircle
            rw [hpath] at herror
            cases herror
          · rw [compose_of_base_failed hview hbody hbase hcompose hcircle] at herror
            cases herror
        | ok content =>
          obtain ⟨n, hroot⟩ := endsAtRoot_of_ok hcompose
          have hends := hroot.walkEnds.of_next (base?_of_filtered hview hbody)
          rw [compose_of_base_ok hview hbody hends hcompose] at herror
          obtain ⟨element, hreason⟩ := exists_offender_of_error herror
          cases hreason

end ViewSet

/-- What a report of all views tells about their bases. -/
structure ReportsBases [PatternEngine] (decls : List ViewDecl) (outcomes : List ViewOutcome) :
    Prop where
  /-- A base that is said not to exist is the one that the view at this place filters, and no view
  of its name can be read. -/
  missing : ∀ (position : Nat) (decl : ViewDecl) (name base : Ident),
    decls[position]? = some decl →
      outcomes[position]? = some (.error (.invalid name (.missingBase base))) →
        (∃ view filter, decl.view = .ok view ∧ view.body = .filtered base filter) ∧
          ∀ other ∈ decls, other.id = base → ∃ error, other.view = .error error
  /-- A base that is the name of no view is said not to exist. -/
  unknown : ∀ (position : Nat) (decl : ViewDecl) (view : View) (base : Ident) (filter : TagFilter),
    decls[position]? = some decl → decl.view = .ok view → view.body = .filtered base filter →
      (∀ other ∈ decls, other.id ≠ base) →
        outcomes[position]? = some (.error (.invalid decl.id (.missingBase base)))
  /-- A base that can be read and fails, but not because of a circle, is said to fail. -/
  failed : ∀ (position : Nat) (decl : ViewDecl) (view : View) (filter : TagFilter) (place : Nat)
    (base : ViewDecl) (baseView : View) (error : ViewError),
    decls[position]? = some decl → decl.view = .ok view → view.body = .filtered base.id filter →
      decls[place]? = some base → base.view = .ok baseView →
        outcomes[place]? = some (.error error) → ¬ error.IsCircle →
          outcomes[position]? = some (.error (.invalid decl.id (.baseFailed base.id)))
  /-- A view whose base fails because of a circle is said to lead into a circle. -/
  circle : ∀ (position : Nat) (decl : ViewDecl) (view : View) (filter : TagFilter) (place : Nat)
    (base : ViewDecl) (baseView : View) (error : ViewError),
    decls[position]? = some decl → decl.view = .ok view → view.body = .filtered base.id filter →
      decls[place]? = some base → base.view = .ok baseView →
        outcomes[place]? = some (.error error) → error.IsCircle →
          ∃ path, outcomes[position]? = some (.error (.invalid decl.id (.cyclicBase path)))

namespace DocumentViews

variable [PatternEngine] {decls : List ViewDecl} {views : DocumentViews}

/-- A name is not found exactly when no view of this name can be read. -/
theorem find?_eq_none_iff (h : ofDecls decls = .ok views) {id : Ident} :
    views.set.find? id = none ↔
      ∀ decl ∈ decls, decl.id = id → ∃ error, decl.view = .error error := by
  constructor
  · rintro hnone decl hdecl rfl
    cases hview : decl.view with
    | error error => exact ⟨error, rfl⟩
    | ok view =>
      rw [find?_of_view h hdecl hview] at hnone
      cases hnone
  · intro hrefused
    refine Option.eq_none_iff_forall_ne_some.2 fun view hfind => ?_
    have hmem : view ∈ views.set.views := List.mem_of_find?_eq_some hfind
    rw [(ofDecls_eq_ok h).1, List.filterMap_map] at hmem
    obtain ⟨decl, hdecl, hread⟩ := List.mem_filterMap.1 hmem
    rw [Function.comp_apply] at hread
    cases hview : decl.view with
    | error error =>
      rw [hview] at hread
      cases hread
    | ok read =>
      rw [hview] at hread
      cases hread
      -- the view that is found is read from a view of its name, which is not refused
      have hid : decl.id = id := (ViewDecl.id_of_view hview).symm.trans (ViewSet.id_of_find? hfind)
      obtain ⟨error, herror⟩ := hrefused decl hdecl hid
      rw [hview] at herror
      cases herror

/-- What is reported of the bases of views follows from what each view leads to. -/
theorem reportsBases (h : ofDecls decls = .ok views) {model : Model} {settings : Settings}
    {outcomes : List ViewOutcome} (hreports : ReportsInPlace model settings decls views outcomes) :
    ReportsBases decls outcomes where
  missing := by
    intro position decl name base hdecl hmissing
    cases hview : decl.view with
    | error error =>
      rw [hreports.refused position decl error hdecl hview] at hmissing
      cases hmissing
      -- a view is not refused for its base when it is read
      cases ViewDecl.refusal_of_view hview
    | ok view =>
      obtain ⟨hfind, houtcome⟩ := hreports.composed position decl view hdecl hview
      have hlacks := Option.some.inj (houtcome.symm.trans hmissing)
      obtain ⟨view', filter, hfind', hbody, hnone⟩ :=
        ViewSet.exists_filtered_of_missingBase hlacks
      obtain rfl : view = view' := Option.some.inj (hfind.symm.trans hfind')
      exact ⟨⟨view, filter, rfl, hbody⟩, (find?_eq_none_iff h).1 hnone⟩
  unknown := by
    intro position decl view base filter hdecl hview hbody hunknown
    obtain ⟨hfind, houtcome⟩ := hreports.composed position decl view hdecl hview
    have hnone : views.set.find? base = none :=
      (find?_eq_none_iff h).2 fun other hother hid => absurd hid (hunknown other hother)
    rw [houtcome, ViewSet.compose_of_missing hfind hbody hnone]
  failed := by
    intro position decl view filter place base baseView error hdecl hview hbody hbase hbaseView
      herror hcircle
    obtain ⟨hfind, houtcome⟩ := hreports.composed position decl view hdecl hview
    obtain ⟨hbaseFind, hbaseOutcome⟩ := hreports.composed place base baseView hbase hbaseView
    have hfails := Option.some.inj (hbaseOutcome.symm.trans herror)
    rw [houtcome, ViewSet.compose_of_base_failed hfind hbody hbaseFind hfails hcircle]
  circle := by
    intro position decl view filter place base baseView error hdecl hview hbody hbase hbaseView
      herror hcircle
    obtain ⟨hfind, houtcome⟩ := hreports.composed position decl view hdecl hview
    obtain ⟨-, hbaseOutcome⟩ := hreports.composed place base baseView hbase hbaseView
    have hfails := Option.some.inj (hbaseOutcome.symm.trans herror)
    obtain ⟨path, hpath⟩ := ViewSet.compose_of_base_circle hfind hbody hfails hcircle
    exact ⟨path, by rw [houtcome, hpath]⟩

end DocumentViews

/-- A report without a selection that names no view shows all views of the document. -/
theorem Request.exists_views_of_report [PatternEngine] {request : Request}
    {settings : Settings} {document : Document} {report : Report} (hselect : request.select = none)
    (hview : request.view = none) (h : (request.report settings document).value = .ok report) :
    ∃ built views, (Model.build document.sources).value = .ok built ∧
      DocumentViews.ofDecls document.views = .ok views ∧
      report.body = .views (views.composeAll built.model settings).value := by
  rw [Request.report, Logged.value_bind] at h
  cases hbuilt : (Model.build document.sources).value with
  | error error =>
    rw [hbuilt] at h
    cases h
  | ok built =>
    simp only [hbuilt, Logged.value_bind, Request.body, hselect, Model.viewsFor, hview] at h
    cases hviews : DocumentViews.ofDecls document.views with
    | error error =>
      rw [hviews] at h
      cases h
    | ok views =>
      rw [hviews] at h
      cases h
      exact ⟨built, views, rfl, rfl, rfl⟩

/-- Whatever is reported of the views of a document, it tells about their bases as described. -/
theorem reportsBases_of_report [PatternEngine] {request : Request} {settings : Settings}
    {document : Document} {report : Report} (hselect : request.select = none)
    (hview : request.view = none)
    (h : (request.report settings document).value = .ok report) :
    ∃ outcomes, report.body = .views outcomes ∧ ReportsBases document.views outcomes := by
  obtain ⟨built, views, -, hviews, hbody⟩ := Request.exists_views_of_report hselect hview h
  exact ⟨_, hbody, DocumentViews.reportsBases hviews
    (DocumentViews.reportsInPlace hviews built.model settings)⟩

/-- The names of the items that each view of a report shows. -/
def ReportBody.viewIds? : ReportBody → Option (List (Except ViewError (List Ident)))
  | .selection _ => none
  | .views outcomes => some (outcomes.map (Except.map Content.ids))

/-- There is a report of all views when evaluating it gives what each of them shows. -/
theorem exists_outcomes_of_viewIds? [PatternEngine] {request : Request} {settings : Settings}
    {document : Document} {ids : List (Except ViewError (List Ident))}
    (h : (request.report settings document).value.map (fun report => report.body.viewIds?) =
      .ok (some ids)) :
    ∃ report outcomes, (request.report settings document).value = .ok report ∧
      report.body = .views outcomes ∧ outcomes.map (Except.map Content.ids) = ids := by
  obtain ⟨report, hreport, hids⟩ := exists_ok_of_map h
  cases hbody : report.body with
  | selection selection =>
    rw [hbody] at hids
    cases hids
  | views outcomes =>
    rw [hbody] at hids
    exact ⟨report, outcomes, hreport, hbody, Option.some.inj hids⟩

/-- An outcome that shows nothing for a reason is the failure with this reason. -/
theorem getElem?_of_map_ids {outcomes : List ViewOutcome} {position : Nat} {error : ViewError}
    (h : (outcomes.map (Except.map Content.ids))[position]? = some (.error error)) :
    outcomes[position]? = some (.error error) := by
  rw [List.getElem?_map] at h
  obtain ⟨outcome, houtcome, herror⟩ := Option.map_eq_some_iff.1 h
  cases outcome with
  | error reason =>
    cases herror
    exact houtcome
  | ok content => cases herror

/-- A view that cannot be read, one that filters itself and one without its base, each of them the
base of another view. -/
def faultyBases : Document where
  views :=
    [{ id := ⟨"loose"⟩, kind := .modeled .filtered },
      { id := ⟨"on-loose"⟩, kind := .modeled .filtered, base := some ⟨"loose"⟩ },
      { id := ⟨"ring"⟩, kind := .modeled .filtered, base := some ⟨"ring"⟩ },
      { id := ⟨"on-ring"⟩, kind := .modeled .filtered, base := some ⟨"ring"⟩ },
      { id := ⟨"lost"⟩, kind := .modeled .filtered, base := some ⟨"ghost"⟩ },
      { id := ⟨"on-lost"⟩, kind := .modeled .filtered, base := some ⟨"lost"⟩ }]

/-- What is reported of the six views. -/
theorem exists_outcomes_faultyBases :
    ∃ report outcomes, (({} : Request).report {} faultyBases).value = .ok report ∧
      report.body = .views outcomes ∧
      outcomes.map (Except.map Content.ids) =
        [.error (.invalid ⟨"loose"⟩ (.bodyMismatch .noBase)),
          .error (.invalid ⟨"on-loose"⟩ (.missingBase ⟨"loose"⟩)),
          .error (.invalid ⟨"ring"⟩ (.cyclicBase [⟨"ring"⟩, ⟨"ring"⟩])),
          .error (.invalid ⟨"on-ring"⟩ (.cyclicBase [⟨"ring"⟩, ⟨"ring"⟩])),
          .error (.invalid ⟨"lost"⟩ (.missingBase ⟨"ghost"⟩)),
          .error (.invalid ⟨"on-lost"⟩ (.baseFailed ⟨"lost"⟩))] :=
  exists_outcomes_of_viewIds? (by decide +kernel)

/-- The view whose base fails for want of its own base is said to fail with it. -/
theorem reportsBases_faultyBases :
    ∃ report outcomes, (({} : Request).report {} faultyBases).value = .ok report ∧
      report.body = .views outcomes ∧
      outcomes[5]? = some (.error (.invalid ⟨"on-lost"⟩ (.baseFailed ⟨"lost"⟩))) ∧
      ReportsBases faultyBases.views outcomes := by
  obtain ⟨report, outcomes, hreport, hbody, hids⟩ := exists_outcomes_faultyBases
  obtain ⟨outcomes', hbody', hbases⟩ := reportsBases_of_report rfl rfl hreport
  obtain rfl : outcomes = outcomes' := ReportBody.views.inj (hbody.symm.trans hbody')
  exact ⟨report, outcomes, hreport, hbody, getElem?_of_map_ids (by rw [hids]; rfl), hbases⟩

/-- A base that is there and cannot be read is said not to exist, and a view whose base runs in a
circle is not said to fail with it. -/
theorem missingBase_faultyBases :
    ⟨"loose"⟩ ∈ faultyBases.views.map ViewDecl.id ∧ ⟨"ring"⟩ ∈ faultyBases.views.map ViewDecl.id ∧
      ∃ report outcomes, (({} : Request).report {} faultyBases).value = .ok report ∧
        report.body = .views outcomes ∧
        outcomes[1]? = some (.error (.invalid ⟨"on-loose"⟩ (.missingBase ⟨"loose"⟩))) ∧
        outcomes[2]? = some (.error (.invalid ⟨"ring"⟩ (.cyclicBase [⟨"ring"⟩, ⟨"ring"⟩]))) ∧
        outcomes[3]? = some (.error (.invalid ⟨"on-ring"⟩ (.cyclicBase [⟨"ring"⟩, ⟨"ring"⟩]))) := by
  obtain ⟨report, outcomes, hreport, hbody, hids⟩ := exists_outcomes_faultyBases
  refine ⟨by decide, by decide, report, outcomes, hreport, hbody, ?_, ?_, ?_⟩
  all_goals
    refine getElem?_of_map_ids ?_
    rw [hids]
    rfl

end Viewpoint
