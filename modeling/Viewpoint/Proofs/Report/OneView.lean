import Viewpoint.Proofs.Report.SharedNames

/-!
# Asking for one view

A request may ask for a single view of a document. It is answered without going through the places
of the views: a fault under the name is looked for first, and otherwise the view is composed by
itself. Where the views have distinct names this gives what a report of all views has at the place
of the view: the same content and nothing beside it, or a refusal for the same fault.

* `DocumentViews.compose_of_mem` says what composing the view with a name leads to.
* `AnswersEach` compares the answers to requests for one view with a report of all views, and
  `answersEach_of_build` says that they agree.
-/

namespace Viewpoint

/-- The request for the view with a name alone. -/
def Request.forView (request : Request) (id : Ident) : Request :=
  { request with view := some id }

/-- What requests for single views are answered with, by what a report of all views has at the
places of these views. -/
structure AnswersEach [PatternEngine] (request : Request) (settings : Settings)
    (document : Document) (warnings : List BuildWarning) (outcomes : List ViewOutcome) : Prop where
  /-- The report has an entry for every view. -/
  length_eq : outcomes.length = document.views.length
  /-- Where the entry of a view is content, the answer is a report of this entry alone. -/
  content : ∀ (position : Nat) (decl : ViewDecl) (content : Content),
    document.views[position]? = some decl → outcomes[position]? = some (.ok content) →
      ((request.forView decl.id).report settings document).value =
        .ok { warnings, body := .views [.ok content] }
  /-- Where the entry of a view is a fault, the answer is a refusal for it, and its text is the one
  that is written in the entry. -/
  refused : ∀ (position : Nat) (decl : ViewDecl) (error : ViewError),
    document.views[position]? = some decl → outcomes[position]? = some (.error error) →
      ((request.forView decl.id).report settings document).value = .error (.view error) ∧
        (ViewOutcome.json (.error error)).get? "error" = some (.str error.diagnostic.text)
  /-- A name that no view has is not found. -/
  unknown : ∀ id, id ∉ document.views.map ViewDecl.id →
    ((request.forView id).report settings document).value = .error (.view (.notFound id))

namespace DocumentViews

variable [PatternEngine] {decls : List ViewDecl} {views : DocumentViews}
  (h : ofDecls decls = .ok views)

include h

/-- Where names are distinct, the fault of a view that cannot be read is found under its name. -/
theorem faultOf?_eq_some_iff (hdistinct : (decls.map ViewDecl.id).Nodup) {id : Ident}
    {error : ViewError} :
    views.faultOf? id = some error ↔ ∃ decl ∈ decls, decl.id = id ∧ decl.view = .error error := by
  refine ⟨exists_decl_of_faultOf? h, ?_⟩
  rintro ⟨decl, hdecl, rfl, hview⟩
  have hfaults : error ∈ views.faults.map ViewFault.error := by
    rw [(ofDecls_eq_ok h).2.1, mem_map_error_faultsFrom]
    exact List.mem_map.2 ⟨decl, hdecl, hview⟩
  obtain ⟨fault, hfault, rfl⟩ := List.mem_map.1 hfaults
  obtain ⟨found, hfind, -⟩ :=
    exists_find?_of_mem (·.error.view) hfault (ViewDecl.refusal_of_view hview).view_eq
  have hfound : views.faultOf? decl.id = some found.error := by
    rw [faultOf?, hfind, Option.map_some]
  -- what is found is the fault of a view of this name, and this is the only one
  obtain ⟨decl', hdecl', hid, hview'⟩ := exists_decl_of_faultOf? h hfound
  obtain rfl : decl' = decl := List.inj_on_of_nodup_map hdistinct hdecl' hdecl hid
  rw [hfound, Except.error.inj (hview'.symm.trans hview)]

/-- Where names are distinct, composing the view with a name leads to what this view leads to. -/
theorem compose_of_mem (hdistinct : (decls.map ViewDecl.id).Nodup) {decl : ViewDecl}
    (hdecl : decl ∈ decls) (model : Model) (settings : Settings) :
    (views.compose model settings decl.id).value =
      decl.view >>= fun view => (views.set.composeView model settings view).value := by
  rw [compose]
  cases hview : decl.view with
  | error error =>
    rw [(faultOf?_eq_some_iff h hdistinct).2 ⟨decl, hdecl, rfl, hview⟩]
    rfl
  | ok view =>
    have hfault : views.faultOf? decl.id = none := by
      refine Option.eq_none_iff_forall_ne_some.2 fun error herror => ?_
      obtain ⟨decl', hdecl', hid, hview'⟩ := (faultOf?_eq_some_iff h hdistinct).1 herror
      obtain rfl : decl' = decl := List.inj_on_of_nodup_map hdistinct hdecl' hdecl hid
      cases hview'.symm.trans hview
    rw [hfault]
    exact congrArg Logged.value (ViewSet.compose_of_find? (find?_of_view h hdecl hview))

/-- A name that no view has is not found. -/
theorem compose_of_notMem {id : Ident} (hid : id ∉ decls.map ViewDecl.id) (model : Model)
    (settings : Settings) : (views.compose model settings id).value = .error (.notFound id) := by
  have hfault : views.faultOf? id = none := by
    refine Option.eq_none_iff_forall_ne_some.2 fun error herror => ?_
    obtain ⟨decl, hdecl, rfl, -⟩ := exists_decl_of_faultOf? h herror
    exact hid (List.mem_map_of_mem hdecl)
  have hfind : views.set.find? id = none := by
    refine (find?_eq_none_iff h).2 fun decl hdecl heq => ?_
    exact absurd (heq ▸ List.mem_map_of_mem hdecl) hid
  rw [compose, hfault]
  exact ViewSet.compose_of_find?_none hfind

end DocumentViews

/-- The view that is asked for is shown alone, and its failure is the reason why there is no
report. -/
theorem Model.viewsFor_some [PatternEngine] {model : Model} {settings : Settings}
    {decls : List ViewDecl} {views : DocumentViews} (h : DocumentViews.ofDecls decls = .ok views)
    (id : Ident) :
    (model.viewsFor settings decls (some id)).value =
      match (views.compose model settings id).value with
      | .error error => .error (.view error)
      | .ok content => .ok [.ok content] := by
  rw [viewsFor, h]
  simp only [Logged.value_bind]
  cases (views.compose model settings id).value with
  | error error => rfl
  | ok content => rfl

/-- Where the views of a document have distinct names and there is a model, asking for each view by
itself is answered with what a report of all views has in its place. -/
theorem answersEach_of_build [PatternEngine] {request : Request} {document : Document}
    {built : Built}
    (hselect : request.select = none) (hview : request.view = none)
    (hbuilt : (Model.build document.sources).value = .ok built)
    (hdistinct : (document.views.map ViewDecl.id).Nodup) (settings : Settings) :
    ∃ outcomes, (request.report settings document).value =
        .ok { warnings := built.warnings, body := .views outcomes } ∧
      AnswersEach request settings document built.warnings outcomes := by
  obtain ⟨views, hviews⟩ : ∃ views, DocumentViews.ofDecls document.views = .ok views :=
    DocumentViews.exists_ofDecls_iff.2 (hdistinct.sublist (List.filter_sublist.map ViewDecl.id))
  have houtcomes : (views.composeAll built.model settings).value = document.views.map fun decl =>
      decl.view >>= fun view => (views.set.composeView built.model settings view).value :=
    DocumentViews.value_composeAll hviews
  -- what the report has at the place of a view is what composing the view alone leads to
  have hplace : ∀ {position : Nat} {decl : ViewDecl} {outcome : ViewOutcome},
      document.views[position]? = some decl →
        (views.composeAll built.model settings).value[position]? = some outcome →
          (views.compose built.model settings decl.id).value = outcome := by
    intro position decl outcome hdecl houtcome
    rw [houtcomes, List.getElem?_map, hdecl, Option.map_some] at houtcome
    rw [DocumentViews.compose_of_mem hviews hdistinct (List.mem_of_getElem? hdecl)]
    exact Option.some.inj houtcome
  have hanswer : ∀ id, ((request.forView id).report settings document).value =
      (built.model.viewsFor settings document.views (some id)).value.map fun outcomes =>
        { warnings := built.warnings, body := .views outcomes } :=
    fun id => Request.report_of_build hselect hbuilt
  refine ⟨(views.composeAll built.model settings).value, ?_, ?_, ?_, ?_, ?_⟩
  · rw [Request.report_of_build hselect hbuilt, hview, Model.viewsFor_none hviews]
    rfl
  · rw [houtcomes, List.length_map]
  · intro position decl content hdecl hcontent
    rw [hanswer, Model.viewsFor_some hviews, hplace hdecl hcontent]
    rfl
  · intro position decl error hdecl herror
    refine ⟨?_, rfl⟩
    rw [hanswer, Model.viewsFor_some hviews, hplace hdecl herror]
    rfl
  · intro id hid
    rw [hanswer, Model.viewsFor_some hviews, DocumentViews.compose_of_notMem hviews hid]
    rfl

/-- Views of the depot with distinct names: a list and a filter of it, and between them one that
cannot be read and one whose base does not exist. -/
def depotBoard : Document where
  sources := depotSources
  views :=
    [{ id := ⟨"list"⟩, kind := .modeled .dynamic, content := some [{ item := ⟨"db"⟩ }] },
      { id := ⟨"loose"⟩, kind := .modeled .filtered, tags := ["backend"] },
      { id := ⟨"lost"⟩, kind := .modeled .filtered, base := some ⟨"ghost"⟩ },
      { id := ⟨"backend"⟩, kind := .modeled .filtered, base := some ⟨"list"⟩,
        tags := ["backend"] }]

/-- The filter is shown alone although two other views fail, and each of these is refused for the
fault that is reported of it. -/
theorem answersEach_depotBoard :
    ∃ built outcomes, (Model.build depotBoard.sources).value = .ok built ∧
      (depotBoard.views.map ViewDecl.id).Nodup ∧
      outcomes.map (Except.map Content.ids) =
        [.ok [⟨"db"⟩], .error (.invalid ⟨"loose"⟩ (.bodyMismatch .noBase)),
          .error (.invalid ⟨"lost"⟩ (.missingBase ⟨"ghost"⟩)), .ok [⟨"db"⟩]] ∧
      AnswersEach {} {} depotBoard built.warnings outcomes := by
  obtain ⟨report, outcomes, hreport, hbody, hids⟩ :
      ∃ report outcomes, (({} : Request).report {} depotBoard).value = .ok report ∧
        report.body = .views outcomes ∧ outcomes.map (Except.map Content.ids) =
          [.ok [⟨"db"⟩], .error (.invalid ⟨"loose"⟩ (.bodyMismatch .noBase)),
            .error (.invalid ⟨"lost"⟩ (.missingBase ⟨"ghost"⟩)), .ok [⟨"db"⟩]] :=
    exists_outcomes_of_viewIds? (by decide +kernel)
  obtain ⟨built, -, hbuilt, -⟩ := Request.exists_views_of_report rfl rfl hreport
  obtain ⟨outcomes', hreport', hanswers⟩ :=
    @answersEach_of_build regularExpressions {} depotBoard built rfl rfl hbuilt (by decide) {}
  rw [hreport] at hreport'
  cases hreport'
  cases hbody
  exact ⟨built, outcomes, hbuilt, by decide, hids, hanswers⟩

end Viewpoint
