import Viewpoint.Pattern
import Viewpoint.Proofs.Criteria.Rewriting
import Viewpoint.Proofs.Model.SameFacts
import Viewpoint.Proofs.View.Copies

/-!
# Views whose criteria are written in other ways

What criteria are made into is sorted by the model, and the model alone: the items that meet them
are taken in its order, widened, looked up and sorted again. So criteria that the same items meet
are worth the same, wherever they stand: a query selects the same items, and a view that uses them
as its selection or for what it excludes shows the same content, as does every view that filters it.

* `Criteria.MeansTheSame` says that the same items of every model meet two criteria, and
  `select_eq` and `value_selectedEntries_eq` what follows for queries and selection bodies.
* `ViewSet.Replaced` puts other criteria in place of some, in the views of a set.
  `value_compose_chainFrom_of_replaced` follows the base chains of both sets.
* `WorthTheSame` compares criteria in two writings, and `worthTheSame_of_rewritten` says that how
  they are written does not matter.
-/

namespace Viewpoint

/-- The same items of every model meet both criteria. -/
def Criteria.MeansTheSame (old new : Criteria) : Prop :=
  ∀ model item, Model.satisfies model new item = Model.satisfies model old item

namespace Criteria.MeansTheSame

variable {old new : Criteria} (h : old.MeansTheSame new) (model : Model)

include h

theorem satisfies_eq : model.satisfies new = model.satisfies old :=
  funext (h model)

/-- The same names are found. -/
theorem value_matching_eq (settings : SelectionSettings) :
    (model.matching settings new).value = (model.matching settings old).value := by
  rw [Model.value_matching, Model.value_matching, h.satisfies_eq]

/-- Queries select the same items in the same order, with any include flags. -/
theorem select_eq (settings : SelectionSettings) (flags : List IncludeFlag) :
    (model.select settings new flags).value = (model.select settings old flags).value := by
  rw [Model.select, Model.select, Logged.value_bind, Logged.value_bind, h.value_matching_eq]

end Criteria.MeansTheSame

/-- Other criteria in place of some, or the same as before. -/
inductive Criteria.Replaced (old new : Criteria) : Criteria → Criteria → Prop
  | kept (criteria : Criteria) : Replaced old new criteria criteria
  | replaced : Replaced old new old new

/-- Other criteria in place of some, as the selection of a body or for what it excludes. -/
inductive ViewBody.Replaced (old new : Criteria) : ViewBody → ViewBody → Prop
  | selection {criteria criteria' : Criteria} {exclude exclude' : Option Criteria}
    (flags : List IncludeFlag) (hselection : Criteria.Replaced old new criteria criteria')
    (hexclude : Option.Rel (Criteria.Replaced old new) exclude exclude') :
    Replaced old new (.selection criteria flags exclude) (.selection criteria' flags exclude')
  | kept (body : ViewBody) : Replaced old new body body

/-- Other criteria in place of some, in the body of a view. -/
def View.Replaced (old new : Criteria) (view view' : View) : Prop :=
  ∃ body, ViewBody.Replaced old new view.body body ∧ view' = { view with body }

/-- Other criteria in place of some, in any of the views of a set. -/
def ViewSet.Replaced (old new : Criteria) (set set' : ViewSet) : Prop :=
  List.Forall₂ (View.Replaced old new) set.views set'.views

/-- If members of two lists are related in pairs and a test does not tell them apart, the first
members that pass it are related, too. -/
theorem optionRel_find?_of_forall₂ {α β : Type} {rel : α → β → Prop} {left : List α}
    {right : List β} {test : α → Bool} {test' : β → Bool} (h : List.Forall₂ rel left right)
    (htest : ∀ a b, rel a b → test' b = test a) :
    Option.Rel rel (left.find? test) (right.find? test') := by
  induction h with
  | nil => exact .none
  | @cons a b left right hab _ ih =>
    rw [List.find?_cons, List.find?_cons, htest a b hab]
    cases test a with
    | true => exact .some hab
    | false => exact ih

section Composing

variable {old new : Criteria} {set set' : ViewSet} {view view' : View} {model : Model}
  {settings : Settings}

theorem View.Replaced.id_eq (h : View.Replaced old new view view') : view'.id = view.id := by
  obtain ⟨body, -, rfl⟩ := h
  rfl

/-- In both sets there are views under the same names, and they correspond to each other. -/
theorem ViewSet.Replaced.find? (h : ViewSet.Replaced old new set set') (id : Ident) :
    Option.Rel (View.Replaced old new) (set.find? id) (set'.find? id) :=
  optionRel_find?_of_forall₂ h fun view view' hview => by rw [hview.id_eq]

theorem ViewSet.Replaced.exists_find? (h : ViewSet.Replaced old new set set') {id : Ident}
    (hview : set.find? id = some view) :
    ∃ view', set'.find? id = some view' ∧ View.Replaced old new view view' := by
  have hfind := h.find? id
  cases hview' : set'.find? id with
  | none =>
    rw [hview, hview'] at hfind
    cases hfind
  | some view' =>
    rw [hview, hview'] at hfind
    cases hfind with
    | some hreplaced => exact ⟨view', rfl, hreplaced⟩

theorem ViewSet.Replaced.find?_eq_none (h : ViewSet.Replaced old new set set') {id : Ident}
    (hnone : set.find? id = none) : set'.find? id = none := by
  have hfind := h.find? id
  cases hview' : set'.find? id with
  | none => rfl
  | some view' =>
    rw [hnone, hview'] at hfind
    cases hfind

/-- A body filters the same view as before. -/
theorem ViewBody.Replaced.base?_eq {body body' : ViewBody}
    (h : ViewBody.Replaced old new body body') : body'.base? = body.base? := by
  cases h with
  | selection flags hselection hexclude => rfl
  | kept => rfl

theorem View.Replaced.base?_eq (h : View.Replaced old new view view') :
    view'.body.base? = view.body.base? := by
  obtain ⟨body', hbody', rfl⟩ := h
  exact hbody'.base?_eq

/-- A view that filters another one is the same view in both sets. -/
theorem View.Replaced.eq_of_filtered {base : Ident} {filter : TagFilter}
    (h : View.Replaced old new view view') (hbody : view.body = .filtered base filter) :
    view' = view := by
  obtain ⟨body', hbody', rfl⟩ := h
  rw [hbody] at hbody'
  cases hbody'
  rw [← hbody]

section

variable (hmeans : old.MeansTheSame new)

include hmeans

theorem Criteria.Replaced.meansTheSame {criteria criteria' : Criteria}
    (h : Criteria.Replaced old new criteria criteria') : criteria.MeansTheSame criteria' := by
  cases h with
  | kept => exact fun _ _ => rfl
  | replaced => exact hmeans

/-- A selection body has the same entries. -/
theorem value_selectedEntries_eq {criteria criteria' : Criteria}
    {exclude exclude' : Option Criteria} (settings : SelectionSettings) (flags : List IncludeFlag)
    (hselection : Criteria.Replaced old new criteria criteria')
    (hexclude : Option.Rel (Criteria.Replaced old new) exclude exclude') :
    (model.selectedEntries settings criteria' flags exclude').value =
      (model.selectedEntries settings criteria flags exclude).value := by
  have hexcluded : ∀ item,
      exclude'.any (model.satisfies · item) = exclude.any (model.satisfies · item) := by
    intro item
    cases hexclude with
    | none => rfl
    | some h => exact h.meansTheSame hmeans model item
  rw [Model.selectedEntries, Model.selectedEntries, Logged.value_bind, Logged.value_bind,
    (hselection.meansTheSame hmeans).value_matching_eq model settings]
  simp only [Logged.value_pure, hexcluded]

/-- A view has the same entries of its own, with the same warnings. -/
theorem View.Replaced.value_ownEntries_eq (h : View.Replaced old new view view')
    (settings : SelectionSettings) :
    (model.ownEntries settings view').value = (model.ownEntries settings view).value := by
  obtain ⟨body', hbody', rfl⟩ := h
  rw [Model.ownEntries, Model.ownEntries]
  cases hbody : view.body with
  | selection criteria flags exclude =>
    rw [hbody] at hbody'
    cases hbody' with
    | selection _ hselection hexclude =>
      simp only [Logged.value_bind, Logged.value_pure,
        value_selectedEntries_eq hmeans settings flags hselection hexclude]
    | kept => rfl
  | explicit content =>
    rw [hbody] at hbody'
    cases hbody'
    rfl
  | filtered base filter =>
    rw [hbody] at hbody'
    cases hbody'
    rfl

/-- A chain of one view shows the same content. -/
theorem View.Replaced.value_compose_root_eq (h : View.Replaced old new view view') :
    ((BaseChain.root view').compose model settings).value =
      ((BaseChain.root view).compose model settings).value := by
  rw [BaseChain.compose, BaseChain.compose, Logged.value_bind, Logged.value_bind,
    h.value_ownEntries_eq hmeans]
  obtain ⟨body', -, rfl⟩ := h
  rfl

/-- Along both base chains there is the same outcome, whatever names the chains have come
through. -/
theorem value_compose_chainFrom_of_replaced (hset : ViewSet.Replaced old new set set')
    (path : List Ident) (hview : View.Replaced old new view view') :
    ((set'.chainFrom path view').compose model settings).value =
      ((set.chainFrom path view).compose model settings).value := by
  -- along the recursion of the chain of the first set, view by view
  induction path, view using ViewSet.chainFrom.induct set generalizing view' with
  | case1 path view criteria flags exclude hbody =>
    have hroot : view.body.base? = none := by rw [hbody]; rfl
    rw [ViewSet.chainFrom_of_root hroot, ViewSet.chainFrom_of_root (hview.base?_eq.trans hroot),
      hview.value_compose_root_eq hmeans]
  | case2 path view content hbody =>
    have hroot : view.body.base? = none := by rw [hbody]; rfl
    rw [ViewSet.chainFrom_of_root hroot, ViewSet.chainFrom_of_root (hview.base?_eq.trans hroot),
      hview.value_compose_root_eq hmeans]
  -- a filtered view is the same in both sets, and so only its base may differ
  | case3 path view base filter hbody hbase =>
    obtain rfl := hview.eq_of_filtered hbody
    rw [ViewSet.chainFrom_of_missing hbody hbase,
      ViewSet.chainFrom_of_missing hbody (hset.find?_eq_none hbase)]
  | case4 path view base filter hbody baseView hbase hmem =>
    obtain rfl := hview.eq_of_filtered hbody
    obtain ⟨baseView', hbase', -⟩ := hset.exists_find? hbase
    rw [ViewSet.chainFrom_of_mem hbody hbase hmem, ViewSet.chainFrom_of_mem hbody hbase' hmem]
  | case5 path view base filter hbody baseView hbase hmem ih =>
    obtain rfl := hview.eq_of_filtered hbody
    obtain ⟨baseView', hbase', hbaseView⟩ := hset.exists_find? hbase
    rw [ViewSet.chainFrom_of_notMem hbody hbase hmem, ViewSet.chainFrom_of_notMem hbody hbase' hmem,
      BaseChain.compose, BaseChain.compose, Logged.value_bind, Logged.value_bind, ih hbaseView,
      ViewSet.view_chainFrom, ViewSet.view_chainFrom, hbaseView.id_eq]

/-- Every view shows the same content in both sets, or fails in both for the same reason. -/
theorem ViewSet.Replaced.value_compose_eq (hset : ViewSet.Replaced old new set set')
    (model : Model) (settings : Settings) (id : Ident) :
    (set'.compose model settings id).value = (set.compose model settings id).value := by
  cases hview : set.find? id with
  | none => rw [compose_of_find?_none hview, compose_of_find?_none (hset.find?_eq_none hview)]
  | some view =>
    obtain ⟨view', hview', hreplaced⟩ := hset.exists_find? hview
    rw [compose_of_find? hview, compose_of_find? hview', chain, chain, hreplaced.id_eq,
      value_compose_chainFrom_of_replaced hmeans hset _ hreplaced]

end

end Composing

/-- Criteria in two writings are worth the same. -/
structure WorthTheSame [PatternEngine] (decl decl' : CriteriaDecl) : Prop where
  /-- Both can be read, or neither. -/
  exists_criteria_iff :
    (∃ criteria, decl'.criteria = .ok criteria) ↔ ∃ criteria, decl.criteria = .ok criteria
  /-- The same items of every model meet them. -/
  satisfies_eq : ∀ criteria criteria', decl.criteria = .ok criteria →
    decl'.criteria = .ok criteria' →
      ∀ (model : Model) item, model.satisfies criteria' item = model.satisfies criteria item
  /-- Queries select the same items in the same order, with any include flags. -/
  select_eq : ∀ criteria criteria', decl.criteria = .ok criteria →
    decl'.criteria = .ok criteria' → ∀ (model : Model) settings flags,
      (model.select settings criteria' flags).value = (model.select settings criteria flags).value
  /-- Where one writing is used for the other, as selections or for what is excluded, in any views
  of a set, every view of the set composes to the same content or fails for the same reason. -/
  compose_eq : ∀ criteria criteria', decl.criteria = .ok criteria →
    decl'.criteria = .ok criteria' → ∀ set set', ViewSet.Replaced criteria criteria' set set' →
      ∀ model settings id,
        (set'.compose model settings id).value = (set.compose model settings id).value

/-- How criteria are written does not matter. -/
theorem worthTheSame_of_rewritten [PatternEngine] {decl decl' : CriteriaDecl}
    (h : decl.Rewritten decl') : WorthTheSame decl decl' := by
  have hmaps : decl.SameMaps decl' := .of_rewritten h
  have hmeans : ∀ {criteria criteria'}, decl.criteria = .ok criteria →
      decl'.criteria = .ok criteria' → criteria.MeansTheSame criteria' :=
    fun hread hread' => hmaps.satisfies_eq hread hread'
  exact
    { exists_criteria_iff := hmaps.exists_criteria_iff
      satisfies_eq := fun _ _ hread hread' => hmeans hread hread'
      select_eq := fun _ _ hread hread' model => (hmeans hread hread').select_eq model
      compose_eq := fun _ _ hread hread' _ _ hset =>
        hset.value_compose_eq (hmeans hread hread') }

/-- Criteria that ask for the backend without its stores, in one map. -/
def coreDecl : CriteriaDecl :=
  .all [⟨"tag", .text "backend"⟩, ⟨"!tags", .list ["storage"]⟩]

/-- The same criteria in a list, where the map stands twice with its entries in either order. -/
def coreDeclTwice : CriteriaDecl :=
  .anyOf
    [[⟨"!tags", .list ["storage"]⟩, ⟨"tag", .text "backend"⟩],
      [⟨"tag", .text "backend"⟩, ⟨"!tags", .list ["storage"]⟩]]

/-- Two views that use criteria, one of them for what it excludes, and a view that filters this
one. -/
def coreViews (criteria : Criteria) : ViewSet where
  views :=
    [{ id := ⟨"core"⟩, kind := .modeled .component
       body := .selection criteria [.related, .relations] none },
      { id := ⟨"rest"⟩, kind := .modeled .landscape
        body := .selection (.all {}) [] (some criteria) },
      { id := ⟨"stores"⟩, kind := .modeled .filtered
        body := .filtered ⟨"rest"⟩ { tags := ["storage"] } }]
  distinct := by
    show [Ident.mk "core", ⟨"rest"⟩, ⟨"stores"⟩].Nodup
    decide

/-- The list is read as the map is, and the view of the stores shows the same with either. -/
theorem worthTheSame_coreDecl :
    coreDecl.Rewritten coreDeclTwice ∧
      ∃ criteria criteria', coreDecl.criteria = .ok criteria ∧
        coreDeclTwice.criteria = .ok criteria' ∧
        ViewSet.Replaced criteria criteria' (coreViews criteria) (coreViews criteria') ∧
        ∃ built content, (Model.build depotSources).value = .ok built ∧
          ((coreViews criteria).compose built.model {} ⟨"stores"⟩).value = .ok content ∧
          content.ids = [⟨"db"⟩] ∧
          ((coreViews criteria').compose built.model {} ⟨"stores"⟩).value = .ok content := by
  have hrewritten : coreDecl.Rewritten coreDeclTwice := by
    -- put the map into a list, list it once more and turn the entries of the first one round
    refine .trans _ _ _ (.rel _ _ (.wrapped _)) (.trans _ _ _ (.rel _ _ (.repeated
      (List.mem_singleton_self _) : CriteriaDecl.Rewrites (.anyOf ([] ++ [_])) (.anyOf _))) ?_)
    exact .rel _ _ (.entriesOfEach (.cons (.swap _ _ []) (.cons (.refl _) .nil)))
  let criteria : Criteria := .all ⟨[⟨.tag "backend", false⟩, ⟨.tags ["storage"], true⟩]⟩
  let criteria' : Criteria := .anyOf
    [⟨[⟨.tags ["storage"], true⟩, ⟨.tag "backend", false⟩]⟩,
      ⟨[⟨.tag "backend", false⟩, ⟨.tags ["storage"], true⟩]⟩]
  have hread : coreDecl.criteria = .ok criteria := rfl
  have hread' : coreDeclTwice.criteria = .ok criteria' := rfl
  have hreplaced : ViewSet.Replaced criteria criteria' (coreViews criteria) (coreViews criteria') :=
    .cons ⟨_, .selection _ .replaced .none, rfl⟩
      (.cons ⟨_, .selection _ (.kept _) (.some .replaced), rfl⟩
        (.cons ⟨_, .kept _, rfl⟩ .nil))
  obtain ⟨built, content, hbuilt, hok, hids⟩ :
      ∃ built content, (Model.build depotSources).value = .ok built ∧
        ((coreViews criteria).compose built.model {} ⟨"stores"⟩).value = .ok content ∧
        content.ids = [⟨"db"⟩] := exists_content_of_map (by decide +kernel)
  have hsame := (worthTheSame_of_rewritten hrewritten).compose_eq _ _ hread hread' _ _ hreplaced
    built.model {} ⟨"stores"⟩
  exact ⟨hrewritten, criteria, criteria', hread, hread', hreplaced, built, content, hbuilt, hok,
    hids, hsame.trans hok⟩

end Viewpoint
