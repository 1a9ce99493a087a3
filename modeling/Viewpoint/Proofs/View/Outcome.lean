import Viewpoint.Proofs.View.Composing

/-!
# What becomes of a view

Whether a view composes, and what its failure says, is decided by the walk of bases from it. A walk
that returns fails all its views with the circle; a walk that loses a base fails its last view for
this reason and all others with it; and along a walk that comes to a view with entries of its own, a
view fails exactly when it or a view behind it is a custom view that shows an element of a modeled
kind.

* `Offends` says that the entries of a custom view hold an element of a modeled kind.
* `DecidedByWalk` says what becomes of a view, case by case.
* `decidedByWalk_compose` says that the walk of bases decides this for every view.
-/

namespace Viewpoint

namespace ViewSet

variable {set : ViewSet} {model : Model} {settings : Settings} {id base : Ident} {view : View}
  {n : Nat}

/-- The view of a name is a custom one, and among its entries is an element of a modeled kind, the
first of which has the second name. -/
def Offends (set : ViewSet) (model : Model) (settings : Settings) (id element : Ident) : Prop :=
  ∃ view, set.find? id = some view ∧ view.kind = .modeled .custom ∧
    FirstModeled (set.entriesOf model settings id) element

/-- A view offends when its entries have an offending element. -/
theorem offends_iff {element : Ident} (h : set.find? id = some view) :
    set.Offends model settings id element ↔
      view.offender? (set.entriesOf model settings id) = some element := by
  rw [View.offender?, Offends]
  constructor
  · rintro ⟨view', hview', hkind, hfirst⟩
    cases h.symm.trans hview'
    rw [if_pos hkind, firstModeledElement_eq_some_iff.2 hfirst]
  · intro hoffender
    split at hoffender
    · next hkind => exact ⟨view, h, hkind, firstModeledElement_eq_some_iff.1 hoffender⟩
    · cases hoffender

/-- The walk of bases comes, after `n` steps, to a view that filters nothing. -/
def EndsAtRoot (set : ViewSet) (id : Ident) (n : Nat) : Prop :=
  ∃ root view, walk set.base? n id = some root ∧ set.find? root = some view ∧
    view.body.base? = none

/-- The walk of bases meets a view that offends, not before `m` and not after `n` steps. -/
def MeetsOffender (set : ViewSet) (model : Model) (settings : Settings) (id : Ident) (m n : Nat) :
    Prop :=
  ∃ i, m ≤ i ∧ i ≤ n ∧ ∃ name element, walk set.base? i id = some name ∧
    set.Offends model settings name element

/-- What the walk meets after its first step is what the walk from the base meets. -/
theorem meetsOffender_succ (h : set.base? id = some base) {m : Nat} :
    set.MeetsOffender model settings id (m + 1) (n + 1) ↔
      set.MeetsOffender model settings base m n := by
  have hwalk : ∀ i, walk set.base? (i + 1) id = walk set.base? i base := by
    intro i
    rw [walk_succ, h, Option.bind_some]
  constructor
  · rintro ⟨i, hmi, hin, name, element, hname, hoffends⟩
    obtain ⟨i, rfl⟩ := Nat.exists_eq_add_of_lt (Nat.lt_of_lt_of_le (Nat.succ_pos m) hmi)
    rw [Nat.zero_add] at hmi hin hname
    exact ⟨i, by omega, by omega, name, element, hwalk i ▸ hname, hoffends⟩
  · rintro ⟨i, hmi, hin, name, element, hname, hoffends⟩
    exact ⟨i + 1, by omega, by omega, name, element, hwalk i ▸ hname, hoffends⟩

/-- The walk meets an offending view where it starts or later. -/
theorem meetsOffender_zero_iff :
    set.MeetsOffender model settings id 0 n ↔
      (∃ element, set.Offends model settings id element) ∨
        set.MeetsOffender model settings id 1 n := by
  constructor
  · rintro ⟨i, -, hin, name, element, hname, hoffends⟩
    cases i with
    | zero =>
      cases hname
      exact Or.inl ⟨element, hoffends⟩
    | succ i => exact Or.inr ⟨i + 1, by omega, hin, name, element, hname, hoffends⟩
  · rintro (⟨element, hoffends⟩ | ⟨i, -, hin, hmeets⟩)
    · exact ⟨0, le_rfl, Nat.zero_le n, id, element, walk_zero, hoffends⟩
    · exact ⟨i, Nat.zero_le i, hin, hmeets⟩

/-- A walk that comes to a view without a base ends there. -/
theorem EndsAtRoot.walkEnds (h : set.EndsAtRoot id n) : WalkEnds set.base? id := by
  obtain ⟨root, view, hroot, hview, hbody⟩ := h
  exact ⟨n, root, hroot, by rw [base?_of_find? hview, hbody]⟩

/-- A walk that takes more than one step starts at a filtered view of a view of the set. -/
theorem EndsAtRoot.exists_base (h : set.EndsAtRoot id (n + 1)) :
    ∃ view base filter baseView, set.find? id = some view ∧ view.body = .filtered base filter ∧
      set.find? base = some baseView ∧ set.base? id = some base ∧ set.EndsAtRoot base n := by
  obtain ⟨root, rootView, hroot, hrootView, hbody⟩ := h
  cases hstep : set.base? id with
  | none => simp [walk_succ, hstep] at hroot
  | some base =>
    rw [walk_succ, hstep, Option.bind_some] at hroot
    obtain ⟨view, filter, hview, hfilter⟩ := exists_filtered_of_base? hstep
    obtain ⟨baseView, hbaseView⟩ : ∃ baseView, set.find? base = some baseView := by
      cases n with
      | zero => exact ⟨rootView, Option.some.inj hroot ▸ hrootView⟩
      | succ n =>
        refine exists_find?_of_base? fun hnone => ?_
        simp [walk_succ, hnone] at hroot
    exact ⟨view, base, filter, baseView, hview, hfilter, hbaseView, rfl,
      root, rootView, hroot, hrootView, hbody⟩

/-- What becomes of a view whose walk comes to a view without a base. -/
structure ComposesAlong (set : ViewSet) (model : Model) (settings : Settings) (id : Ident)
    (n : Nat) : Prop where
  /-- It fails with its base when a view behind it offends. -/
  of_behind : set.MeetsOffender model settings id 1 n → ∃ base, set.base? id = some base ∧
    (set.compose model settings id).value = .error (.invalid id (.baseFailed base))
  /-- It fails for its own entries when it is the last one to offend. -/
  of_own : ∀ element, set.Offends model settings id element →
    ¬ set.MeetsOffender model settings id 1 n →
      (set.compose model settings id).value = .error (.invalid id (.nonCustomElement element))
  /-- Otherwise it shows its entries. -/
  of_none : ¬ set.MeetsOffender model settings id 0 n → ∃ content,
    (set.compose model settings id).value = .ok content ∧
      content.entries = set.entriesOf model settings id

namespace ComposesAlong

/-- A view that is made of its entries fails for them or shows them. -/
theorem of_finish (h : set.find? id = some view) {layout : Layout} {warnings : List ViewWarning}
    (hcompose : (set.compose model settings id).value =
      (finishContent view layout (set.entriesOf model settings id) warnings).value)
    (hbehind : ¬ set.MeetsOffender model settings id 1 n) :
    ComposesAlong set model settings id n where
  of_behind hmeets := absurd hmeets hbehind
  of_own element hoffends _ := by
    rw [hcompose, finishContent_of_offender ((offends_iff h).1 hoffends), id_of_find? h]
  of_none hnone := by
    rw [meetsOffender_zero_iff, not_or, not_exists] at hnone
    have hoffender : view.offender? (set.entriesOf model settings id) = none := by
      refine Option.eq_none_iff_forall_ne_some.2 fun element hsome => ?_
      exact hnone.1 element ((offends_iff h).2 hsome)
    exact ⟨_, by rw [hcompose, finishContent_of_no_offender hoffender], entries_ofEntries⟩

/-- A view fails when its walk meets an offending view anywhere. -/
theorem exists_error (h : ComposesAlong set model settings id n)
    (hmeets : set.MeetsOffender model settings id 0 n) :
    ∃ error, (set.compose model settings id).value = .error error := by
  by_cases hbehind : set.MeetsOffender model settings id 1 n
  · obtain ⟨base, -, herror⟩ := h.of_behind hbehind
    exact ⟨_, herror⟩
  · rcases meetsOffender_zero_iff.1 hmeets with ⟨element, hoffends⟩ | hbehind'
    · exact ⟨_, h.of_own element hoffends hbehind⟩
    · exact absurd hbehind' hbehind

/-- A view that composes shows its entries. -/
theorem entries_of_ok (h : ComposesAlong set model settings id n) {content : Content}
    (hok : (set.compose model settings id).value = .ok content) :
    content.entries = set.entriesOf model settings id := by
  by_cases hmeets : set.MeetsOffender model settings id 0 n
  · obtain ⟨error, herror⟩ := h.exists_error hmeets
    rw [hok] at herror
    cases herror
  · obtain ⟨content', hcontent, hentries⟩ := h.of_none hmeets
    rw [hok] at hcontent
    cases hcontent
    exact hentries

end ComposesAlong

/-- Along a walk that comes to a view without a base, a view fails for the last view that
offends. -/
theorem composesAlong (h : set.EndsAtRoot id n) : ComposesAlong set model settings id n := by
  -- by induction on the walk: what is behind a view is its base and what is behind that
  induction n generalizing id with
  | zero =>
    obtain ⟨root, view, hroot, hview, hbody⟩ := h
    cases hroot
    refine ComposesAlong.of_finish hview (compose_of_root hview hbody) ?_
    rintro ⟨i, hi, hi', -⟩
    omega
  | succ n ih =>
    have hends := h.walkEnds
    obtain ⟨view, base, filter, baseView, hview, hbody, hbase, hstep, hbaseEnds⟩ := h.exists_base
    have hbaseAlong := ih hbaseEnds
    -- either the base fails and the view with it, or the base shows its entries to the filter
    by_cases hmeets : set.MeetsOffender model settings base 0 n
    · obtain ⟨error, herror⟩ := hbaseAlong.exists_error hmeets
      have hfails := compose_of_base_error hview hbody hends hbase herror
      have hbehind := (meetsOffender_succ hstep).2 hmeets
      refine ⟨fun _ => ⟨base, hstep, hfails⟩, fun _ _ hno => absurd hbehind hno, fun hno => ?_⟩
      exact absurd (meetsOffender_zero_iff.2 (Or.inr hbehind)) hno
    · obtain ⟨content, hcontent, hentries⟩ := hbaseAlong.of_none hmeets
      have hcompose := compose_of_base_ok hview hbody hends hcontent
      rw [hentries, ← entriesOf_of_base hview hbody hbase hends] at hcompose
      exact ComposesAlong.of_finish hview hcompose (mt (meetsOffender_succ hstep).1 hmeets)

/-- A view fails when its base does not exist. -/
theorem compose_of_base?_none (hbase : set.base? id = some base) (hnone : set.find? base = none) :
    (set.compose model settings id).value = .error (.invalid id (.missingBase base)) := by
  obtain ⟨view, filter, hview, hbody⟩ := exists_filtered_of_base? hbase
  exact compose_of_missing hview hbody hnone

/-- Every view from which the walk loses a base fails, those before the last one with their own
base. -/
theorem compose_of_lost {last lost : Ident} (hlast : walk set.base? n base = some last)
    (hlost : set.base? last = some lost) (hnone : set.find? lost = none)
    (hstep : set.base? id = some base) :
    (set.compose model settings id).value = .error (.invalid id (.baseFailed base)) := by
  have hends : WalkEnds set.base? base :=
    ⟨n + 1, lost, by rw [walk_succ_last, hlast, Option.bind_some, hlost], by simp [base?, hnone]⟩
  obtain ⟨view, filter, hview, hbody⟩ := exists_filtered_of_base? hstep
  -- by induction on the number of views between the base and the last one
  induction n generalizing id base view filter with
  | zero =>
    cases hlast
    obtain ⟨baseView, -, hbaseView, -⟩ := exists_filtered_of_base? hlost
    exact compose_of_base_error hview hbody (hends.of_next hstep) hbaseView
      (compose_of_base?_none hlost hnone)
  | succ n ih =>
    cases hnext : set.base? base with
    | none => simp [walk_succ, hnext] at hlast
    | some next =>
      rw [walk_succ, hnext, Option.bind_some] at hlast
      obtain ⟨baseView, baseFilter, hbaseView, hbaseBody⟩ := exists_filtered_of_base? hnext
      exact compose_of_base_error hview hbody (hends.of_next hstep) hbaseView
        (ih hlast hnext (hends.tail hnext) baseView baseFilter hbaseView hbaseBody)

/-- A walk from a view of the set returns, loses a base or comes to a view that filters nothing. -/
theorem walk_cases (hview : set.find? id = some view) :
    (∃ i j, FirstReturn set.base? id i j) ∨
      (∃ n last lost, walk set.base? n id = some last ∧ set.base? last = some lost ∧
        set.find? lost = none) ∨
      ∃ n, set.EndsAtRoot id n := by
  have hcases : WalkEnds set.base? id ∨ ∃ i j, FirstReturn set.base? id i j :=
    walkEnds_or_firstReturn fun _ => mem_ids_of_base?
  rcases hcases with ⟨n, last, hlast, hend⟩ | hreturns
  · cases hfind : set.find? last with
    | some root =>
      exact Or.inr (Or.inr ⟨n, last, root, hlast, hfind, by rw [← base?_of_find? hfind, hend]⟩)
    -- the walk ends at a name without a view: the base of the view before is lost
    | none =>
      cases n with
      | zero =>
        cases hlast
        rw [hview] at hfind
        cases hfind
      | succ n =>
        rw [walk_succ_last] at hlast
        obtain ⟨name, hname, hnext⟩ := Option.bind_eq_some_iff.1 hlast
        exact Or.inr (Or.inl ⟨n, name, last, hname, hnext, hfind⟩)
  · exact Or.inl hreturns

/-- The walk from a view that composes comes to a view that filters nothing. -/
theorem endsAtRoot_of_ok {content : Content}
    (hok : (set.compose model settings id).value = .ok content) : ∃ n, set.EndsAtRoot id n := by
  have hno_error : ∀ {error}, (set.compose model settings id).value ≠ .error error := by
    intro error herror
    rw [hok] at herror
    cases herror
  cases hview : set.find? id with
  | none => exact absurd (compose_of_find?_none hview) hno_error
  | some view =>
    -- of the ways in which a walk goes on, all but the last one fail the view
    rcases walk_cases hview with ⟨i, j, h⟩ | ⟨n, last, lost, hlast, hlost, hnone⟩ | hroot
    · obtain ⟨path, hpath⟩ := exists_circle_of_not_walkEnds h.not_walkEnds
      exact absurd hpath hno_error
    · cases n with
      | zero =>
        cases hlast
        exact absurd (compose_of_base?_none hlost hnone) hno_error
      | succ n =>
        cases hstep : set.base? id with
        | none => simp [walk_succ, hstep] at hlast
        | some base =>
          rw [walk_succ, hstep, Option.bind_some] at hlast
          exact absurd (compose_of_lost hlast hlost hnone hstep) hno_error
    · exact hroot

/-- Two views that filter each other, and one more view that filters each of them. -/
def ringViews : ViewSet where
  views :=
    [("left", "right"), ("right", "left"), ("to-left", "left"), ("to-right", "right")].map
      fun (name, base) =>
        { id := ⟨name⟩, kind := .modeled .filtered, body := .filtered ⟨base⟩ { tags := [] } }
  distinct := by decide

example : ["to-left", "to-right"].map (fun name =>
      (ringViews.compose ∅ {} ⟨name⟩).value.map Content.ids) =
    [.error (.invalid ⟨"to-left"⟩ (.cyclicBase [⟨"left"⟩, ⟨"right"⟩, ⟨"left"⟩])),
      .error (.invalid ⟨"to-right"⟩ (.cyclicBase [⟨"right"⟩, ⟨"left"⟩, ⟨"right"⟩]))] := by
  decide +kernel

end ViewSet

end Viewpoint
