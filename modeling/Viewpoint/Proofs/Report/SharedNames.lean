import Viewpoint.Proofs.Report.Bases

/-!
# Views that share a name

Two views of a document must not have the same name. The names are compared when the set of views is
made, and by then the views that cannot be read have been set aside. So two views that can be read
are refused for a name that they share, while a view that cannot be read shares its name with any
other one, and both of them are reported under it.

* `readableNames` are the names that are compared, and `FirstRepetition` is the one that a refusal
  gives.
* `Request.report_of_build` says what a request about views is answered with.
* `ReportsSharedNames` says what becomes of shared names, and `reportsSharedNames_of_document` that
  this holds for every document.
-/

namespace Viewpoint

/-- The names of the views that can be read, in order. -/
def readableNames [PatternEngine] (decls : List ViewDecl) : List Ident :=
  (decls.filter fun decl => decl.view.isOk).map ViewDecl.id

/-- The first name in a list that stands there for the second time. -/
def FirstRepetition (names : List Ident) (name : Ident) : Prop :=
  ∃ before after, names = before ++ name :: after ∧ before.Nodup ∧ name ∈ before

/-- What becomes of the views of a document that share a name. -/
structure ReportsSharedNames [PatternEngine] (settings : Settings) (document : Document) :
    Prop where
  /-- A request about views is refused for a shared name exactly when there is a model and this is
  the first name that comes again among the views that can be read. -/
  refused_iff : ∀ (request : Request) (name : Ident), request.select = none →
    ((request.report settings document).value = .error (.view (.duplicateView name)) ↔
      (∃ built, (Model.build document.sources).value = .ok built) ∧
        FirstRepetition (readableNames document.views) name)
  /-- All views are reported exactly when there is a model and the views that can be read have
  distinct names. -/
  reported_iff : ∀ request : Request, request.select = none → request.view = none →
    ((∃ report, (request.report settings document).value = .ok report) ↔
      (∃ built, (Model.build document.sources).value = .ok built) ∧
        (readableNames document.views).Nodup)
  /-- The entries of a report of all views have the names of the views, whether these can be read or
  not, and so they have distinct names exactly when the views have. -/
  named : ∀ (request : Request) (report : Report), request.select = none → request.view = none →
    (request.report settings document).value = .ok report →
      ∃ outcomes, report.body = .views outcomes ∧
        (outcomes.map fun outcome => (ViewOutcome.json outcome).get? "view") =
          document.views.map (fun decl => some decl.id.json) ∧
        ((outcomes.map fun outcome => (ViewOutcome.json outcome).get? "view").Nodup ↔
          (document.views.map ViewDecl.id).Nodup)

/-- What is found as a member that comes again stands behind distinct ones and is one of them, or
one of `seen`. -/
theorem exists_of_firstRepeated {seen ids : List Ident} {id : Ident}
    (h : firstRepeated seen ids = some id) :
    ∃ before after, ids = before ++ id :: after ∧ before.Nodup ∧
      (∀ other ∈ before, other ∉ seen) ∧ (id ∈ before ∨ id ∈ seen) := by
  -- by induction on the list: a member that is new joins those that have been seen
  induction ids generalizing seen with
  | nil => cases h
  | cons head rest ih =>
    rw [firstRepeated] at h
    split at h
    · next hhead =>
      cases h
      exact ⟨[], rest, rfl, List.nodup_nil, by simp, Or.inr hhead⟩
    · next hhead =>
      obtain ⟨before, after, rfl, hnodup, hunseen, hagain⟩ := ih h
      have hnew : head ∉ before := fun hmem => hunseen head hmem List.mem_cons_self
      refine ⟨head :: before, after, rfl, List.nodup_cons.2 ⟨hnew, hnodup⟩, ?_, ?_⟩
      · intro other hother hseen
        rcases List.mem_cons.1 hother with rfl | hother
        · exact hhead hseen
        · exact hunseen other hother (List.mem_cons_of_mem head hseen)
      · rcases hagain with hbefore | hseen
        · exact Or.inl (List.mem_cons_of_mem head hbefore)
        · rcases List.mem_cons.1 hseen with rfl | hseen
          · exact Or.inl List.mem_cons_self
          · exact Or.inr hseen

/-- Distinct members end before a member comes again. -/
theorem length_le_of_mem {before after before' after' : List Ident} {a b : Ident}
    (h : before ++ a :: after = before' ++ b :: after') (ha : a ∈ before)
    (hnodup : before'.Nodup) : before'.length ≤ before.length := by
  rcases List.append_eq_append_iff.1 h with ⟨rest, rfl, hrest⟩ | ⟨rest, rfl, -⟩
  · cases rest with
    | nil => simp
    | cons first rest =>
      obtain ⟨rfl, -⟩ := List.cons.inj hrest
      exact absurd List.mem_cons_self (List.disjoint_of_nodup_append hnodup ha)
  · simp

/-- Only one name comes again first. -/
theorem FirstRepetition.unique {names : List Ident} {a b : Ident} (ha : FirstRepetition names a)
    (hb : FirstRepetition names b) : a = b := by
  obtain ⟨before, after, hnames, hnodup, hmem⟩ := ha
  obtain ⟨before', after', hnames', hnodup', hmem'⟩ := hb
  have heq : before ++ a :: after = before' ++ b :: after' := hnames.symm.trans hnames'
  have hlength : before.length = before'.length :=
    (length_le_of_mem heq.symm hmem' hnodup).antisymm (length_le_of_mem heq hmem hnodup')
  exact (List.cons.inj (List.append_inj heq hlength).2).1

/-- Among distinct names none comes again. -/
theorem FirstRepetition.not_nodup {names : List Ident} {name : Ident}
    (h : FirstRepetition names name) : ¬ names.Nodup := by
  obtain ⟨before, after, rfl, -, hmem⟩ := h
  exact fun hnodup => List.disjoint_of_nodup_append hnodup hmem List.mem_cons_self

/-- The scan finds the first name that comes again. -/
theorem firstRepeated_eq_some_iff {names : List Ident} {name : Ident} :
    firstRepeated [] names = some name ↔ FirstRepetition names name := by
  have hfound : ∀ {found}, firstRepeated [] names = some found → FirstRepetition names found := by
    intro found hscan
    obtain ⟨before, after, rfl, hnodup, -, hagain⟩ := exists_of_firstRepeated hscan
    exact ⟨before, after, rfl, hnodup, hagain.resolve_right List.not_mem_nil⟩
  refine ⟨hfound, fun hfirst => ?_⟩
  cases hscan : firstRepeated [] names with
  | none => exact absurd (nodup_of_firstRepeated hscan).1 hfirst.not_nodup
  | some found => rw [(hfound hscan).unique hfirst]

/-- It finds none exactly when the names are distinct. -/
theorem firstRepeated_eq_none_iff {names : List Ident} :
    firstRepeated [] names = none ↔ names.Nodup := by
  refine ⟨fun h => (nodup_of_firstRepeated h).1, fun hnodup => ?_⟩
  refine Option.eq_none_iff_forall_ne_some.2 fun name hname => ?_
  exact (firstRepeated_eq_some_iff.1 hname).not_nodup hnodup

/-- Views are refused as a set for the first name that comes again. -/
theorem ViewSet.ofViews_eq_error_iff {views : List View} {error : ViewError} :
    ofViews views = .error error ↔
      ∃ name, FirstRepetition (views.map View.id) name ∧ error = .duplicateView name := by
  rw [ofViews]
  split
  · next name hname =>
    have hfirst := firstRepeated_eq_some_iff.1 hname
    constructor
    · rintro ⟨⟩
      exact ⟨name, hfirst, rfl⟩
    · rintro ⟨other, hother, rfl⟩
      rw [← firstRepeated_eq_some_iff, hname] at hother
      cases hother
      rfl
  · next hnone =>
    constructor
    · intro h
      cases h
    · rintro ⟨name, hname, -⟩
      rw [← firstRepeated_eq_some_iff, hnone] at hname
      cases hname

/-- The views that can be read have the names as written. -/
theorem map_id_filterMap_view [PatternEngine] (decls : List ViewDecl) :
    ((decls.map ViewDecl.view).filterMap Except.toOption).map View.id = readableNames decls := by
  rw [readableNames]
  induction decls with
  | nil => rfl
  | cons decl rest ih =>
    rw [List.map_cons, List.filterMap_cons, List.filter_cons]
    cases hview : decl.view with
    | error error => exact ih
    | ok view => exact congrArg₂ List.cons (ViewDecl.id_of_view hview) ih

namespace DocumentViews

variable [PatternEngine] {decls : List ViewDecl} {views : DocumentViews}

/-- The views of a document are refused for the first name that comes again among those that can be
read. -/
theorem ofDecls_eq_error_iff {error : ViewError} :
    ofDecls decls = .error error ↔
      ∃ name, FirstRepetition (readableNames decls) name ∧ error = .duplicateView name := by
  rw [← map_id_filterMap_view, ← ViewSet.ofViews_eq_error_iff, ofDecls]
  cases ViewSet.ofViews ((decls.map ViewDecl.view).filterMap Except.toOption) with
  | error error' =>
    constructor
    · intro h
      cases h
      rfl
    · intro h
      cases h
      rfl
  | ok set =>
    constructor
    · intro h
      cases h
    · intro h
      cases h

/-- They go together exactly when those that can be read have distinct names. -/
theorem exists_ofDecls_iff :
    (∃ views, ofDecls decls = .ok views) ↔ (readableNames decls).Nodup := by
  rw [← firstRepeated_eq_none_iff]
  cases hviews : ofDecls decls with
  | error error =>
    obtain ⟨name, hname, -⟩ := ofDecls_eq_error_iff.1 hviews
    rw [firstRepeated_eq_some_iff.2 hname]
    simp
  | ok views =>
    refine ⟨fun _ => Option.eq_none_iff_forall_ne_some.2 fun name hname => ?_, fun _ => ⟨_, rfl⟩⟩
    have herror : ofDecls decls = .error (.duplicateView name) :=
      ofDecls_eq_error_iff.2 ⟨name, firstRepeated_eq_some_iff.1 hname, rfl⟩
    rw [hviews] at herror
    cases herror

end DocumentViews

/-- The faults of views are those of the views that cannot be read. -/
theorem mem_map_error_faultsFrom {position : Nat} {reads : List (Except ViewError View)}
    {error : ViewError} :
    error ∈ (faultsFrom position reads).map ViewFault.error ↔ .error error ∈ reads := by
  -- by induction on the views, from any place
  induction reads generalizing position with
  | nil => simp [faultsFrom]
  | cons read rest ih =>
    cases read with
    | ok view => simpa [faultsFrom] using ih
    | error error' => simp [faultsFrom, ← @ih (position + 1)]

/-- The fault under a name is that of a view of this name. -/
theorem DocumentViews.exists_decl_of_faultOf? [PatternEngine] {decls : List ViewDecl}
    {views : DocumentViews} (h : ofDecls decls = .ok views) {id : Ident} {error : ViewError}
    (hfault : views.faultOf? id = some error) :
    ∃ decl ∈ decls, decl.id = id ∧ decl.view = .error error := by
  obtain ⟨fault, hfind, rfl⟩ := Option.map_eq_some_iff.1 hfault
  have hmem : fault.error ∈ views.faults.map ViewFault.error :=
    List.mem_map_of_mem (List.mem_of_find?_eq_some hfind)
  rw [(ofDecls_eq_ok h).2.1, mem_map_error_faultsFrom] at hmem
  obtain ⟨decl, hdecl, hview⟩ := List.mem_map.1 hmem
  refine ⟨decl, hdecl, ?_, hview⟩
  rw [← (ViewDecl.refusal_of_view hview).view_eq]
  simpa using List.find?_some hfind

/-- Composing along a chain fails only with a reason why the view at its start is invalid. -/
theorem BaseChain.exists_reason_of_error {model : Model} {settings : Settings} {chain : BaseChain}
    {error : ViewError} (h : (chain.compose model settings).value = .error error) :
    ∃ reason, error = .invalid chain.view.id reason := by
  cases chain with
  | root view =>
    obtain ⟨element, rfl⟩ := exists_offender_of_error h
    exact ⟨_, rfl⟩
  | missing view base =>
    cases h
    exact ⟨_, rfl⟩
  | cycle view path =>
    cases h
    exact ⟨_, rfl⟩
  | filtered view filter base =>
    rw [compose, Logged.value_bind] at h
    cases hbase : (base.compose model settings).value with
    | error reason =>
      rw [hbase] at h
      cases h
      cases reason with
      | invalid _ reason => cases reason <;> exact ⟨_, rfl⟩
      | _ => exact ⟨_, rfl⟩
    | ok content =>
      rw [hbase] at h
      obtain ⟨element, rfl⟩ := exists_offender_of_error h
      exact ⟨_, rfl⟩

/-- A view that is asked for by its name is never refused for sharing it. -/
theorem DocumentViews.compose_ne_duplicateView [PatternEngine] {decls : List ViewDecl}
    {views : DocumentViews} (h : ofDecls decls = .ok views) (model : Model) (settings : Settings)
    (id name : Ident) :
    (views.compose model settings id).value ≠ .error (.duplicateView name) := by
  intro herror
  rw [compose] at herror
  cases hfault : views.faultOf? id with
  | some fault =>
    rw [hfault] at herror
    cases herror
    obtain ⟨decl, -, -, hview⟩ := exists_decl_of_faultOf? h hfault
    cases ViewDecl.refusal_of_view hview
  | none =>
    rw [hfault] at herror
    cases hview : views.set.find? id with
    | none =>
      cases (ViewSet.compose_of_find?_none hview).symm.trans herror
    | some view =>
      simp only [ViewSet.compose_of_find? hview] at herror
      obtain ⟨reason, hreason⟩ := BaseChain.exists_reason_of_error herror
      cases hreason

section Answers

variable [PatternEngine] {request : Request} {settings : Settings} {document : Document}
  {built : Built}

/-- Without a model a request is refused. -/
theorem Request.report_of_build_error {error : BuildError}
    (h : (Model.build document.sources).value = .error error) :
    (request.report settings document).value = .error (.build error) := by
  rw [report, Logged.value_bind, h]
  rfl

/-- With a model, a request about views is answered with the views that there are to show. -/
theorem Request.report_of_build (hselect : request.select = none)
    (h : (Model.build document.sources).value = .ok built) :
    (request.report settings document).value =
      (built.model.viewsFor settings document.views request.view).value.map fun outcomes =>
        { warnings := built.warnings, body := .views outcomes } := by
  rw [report, Logged.value_bind, h]
  simp only [body, hselect, Logged.value_bind, Logged.value_pure]
  cases (built.model.viewsFor settings document.views request.view).value with
  | error failure => rfl
  | ok outcomes => rfl

/-- The entries of a report of all views have the names of the views. -/
theorem Request.names_of_report {report : Report} (hselect : request.select = none)
    (hview : request.view = none) (h : (request.report settings document).value = .ok report) :
    ∃ outcomes, report.body = .views outcomes ∧
      (outcomes.map fun outcome => (ViewOutcome.json outcome).get? "view") =
        document.views.map fun decl => some decl.id.json := by
  obtain ⟨built, views, -, hviews, hbody⟩ := exists_views_of_report hselect hview h
  refine ⟨_, hbody, ?_⟩
  rw [DocumentViews.value_composeAll hviews, List.map_map]
  refine List.map_congr_left fun decl _ => ?_
  rw [Function.comp_apply, ViewOutcome.get?_json, decl.view_outcome views.set.view_composeView]

end Answers

/-- Views are refused for a shared name exactly when this is the first name that comes again among
those that can be read, whether one of them is asked for or all. -/
theorem Model.viewsFor_eq_duplicateView_iff [PatternEngine] (model : Model) (settings : Settings)
    {decls : List ViewDecl} (only : Option Ident) {name : Ident} :
    (model.viewsFor settings decls only).value = .error (.view (.duplicateView name)) ↔
      FirstRepetition (readableNames decls) name := by
  rw [viewsFor]
  cases hviews : DocumentViews.ofDecls decls with
  | error error =>
    obtain ⟨first, hfirst, rfl⟩ := DocumentViews.ofDecls_eq_error_iff.1 hviews
    constructor
    · intro h
      cases h
      exact hfirst
    · intro h
      rw [hfirst.unique h]
      rfl
  | ok views =>
    have hnodup : (readableNames decls).Nodup := DocumentViews.exists_ofDecls_iff.1 ⟨views, hviews⟩
    refine ⟨fun h => ?_, fun h => absurd hnodup h.not_nodup⟩
    cases only with
    | none => cases h
    | some id =>
      simp only [Logged.value_bind] at h
      cases hcompose : (views.compose model settings id).value with
      | ok content =>
        rw [hcompose] at h
        cases h
      | error error =>
        rw [hcompose] at h
        cases h
        exact absurd hcompose (DocumentViews.compose_ne_duplicateView hviews model settings id name)

/-- Views that go together are all composed when none of them is asked for. -/
theorem Model.viewsFor_none [PatternEngine] {model : Model} {settings : Settings}
    {decls : List ViewDecl} {views : DocumentViews} (h : DocumentViews.ofDecls decls = .ok views) :
    (model.viewsFor settings decls none).value = .ok (views.composeAll model settings).value := by
  rw [viewsFor, h]
  rfl

/-- Names are written in different ways. -/
theorem Ident.json_injective : Function.Injective Ident.json := by
  rintro ⟨a⟩ ⟨b⟩ h
  cases h
  rfl

/-- In every document, two views that can be read are refused for the name that they share, and no
others are. -/
theorem reportsSharedNames_of_document [PatternEngine] (settings : Settings)
    (document : Document) : ReportsSharedNames settings document where
  refused_iff := by
    intro request name hselect
    cases hbuilt : (Model.build document.sources).value with
    | error error => simp [Request.report_of_build_error hbuilt]
    | ok built =>
      rw [Request.report_of_build hselect hbuilt,
        ← built.model.viewsFor_eq_duplicateView_iff settings request.view]
      cases (built.model.viewsFor settings document.views request.view).value with
      | error failure => simp [Except.map]
      | ok outcomes => simp [Except.map]
  reported_iff := by
    intro request hselect hview
    cases hbuilt : (Model.build document.sources).value with
    | error error => simp [Request.report_of_build_error hbuilt]
    | ok built =>
      rw [Request.report_of_build hselect hbuilt, hview, ← DocumentViews.exists_ofDecls_iff]
      cases hviews : DocumentViews.ofDecls document.views with
      | error error => simp [Model.viewsFor, hviews, Except.map]
      | ok views =>
        rw [Model.viewsFor_none hviews]
        exact iff_of_true ⟨_, rfl⟩ ⟨⟨built, rfl⟩, views, rfl⟩
  named := by
    intro request report hselect hview hreport
    obtain ⟨outcomes, hbody, hnames⟩ := Request.names_of_report hselect hview hreport
    refine ⟨outcomes, hbody, hnames, ?_⟩
    have hwritten : Function.Injective fun id : Ident => some id.json :=
      (Option.some_injective _).comp Ident.json_injective
    rw [hnames, ← List.nodup_map_iff hwritten, List.map_map]
    rfl

/-- A view that cannot be read and one that can, under the same name. -/
def sharedName : Document where
  views :=
    [{ id := ⟨"v"⟩, kind := .modeled .filtered },
      { id := ⟨"v"⟩, kind := .modeled .context }]

/-- Both of them are reported, although they share their name. -/
theorem reported_sharedName :
    ¬ (sharedName.views.map ViewDecl.id).Nodup ∧
      ∃ report outcomes, (({} : Request).report {} sharedName).value = .ok report ∧
        report.body = .views outcomes ∧
        outcomes.map (Except.map Content.ids) =
          [.error (.invalid ⟨"v"⟩ (.bodyMismatch .noBase)), .ok []] ∧
        (outcomes.map fun outcome => (ViewOutcome.json outcome).get? "view") =
          [some (.str "v"), some (.str "v")] := by
  refine ⟨by decide, ?_⟩
  obtain ⟨report, outcomes, hreport, hbody, hids⟩ :
      ∃ report outcomes, (({} : Request).report {} sharedName).value = .ok report ∧
        report.body = .views outcomes ∧ outcomes.map (Except.map Content.ids) =
          [.error (.invalid ⟨"v"⟩ (.bodyMismatch .noBase)), .ok []] :=
    exists_outcomes_of_viewIds? (by decide +kernel)
  obtain ⟨outcomes', hbody', hnames⟩ := Request.names_of_report rfl rfl hreport
  obtain rfl : outcomes = outcomes' := ReportBody.views.inj (hbody.symm.trans hbody')
  exact ⟨report, outcomes, hreport, hbody, hids, hnames⟩

end Viewpoint
