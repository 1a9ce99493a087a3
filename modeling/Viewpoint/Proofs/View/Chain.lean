import Viewpoint.Proofs.Walk
import Viewpoint.View.Set

/-!
# Base chains and walks of bases

From each filtered view a walk goes on to the view that it names as its base. The base chain of a
view records this walk. Where the walk ends, the names that a chain has come through do not matter,
so the chain of a filtered view is that of its base with one more filter; where it returns, the
chain ends in the circle.

* `ViewSet.base?` is one step of the walk.
* `chain_of_base` says how a chain whose walk ends is made of the chain of the base.
* `circle?_chain` says which circle the chain of a view ends in.
-/

namespace Viewpoint

/-- The view that a body filters, if it filters one. -/
def ViewBody.base? : ViewBody → Option Ident
  | filtered base _ => some base
  | _ => none

/-- A body that filters a view is a filtered one. -/
theorem ViewBody.eq_filtered_of_base? {body : ViewBody} {base : Ident}
    (h : body.base? = some base) : ∃ filter, body = .filtered base filter := by
  cases body with
  | selection criteria flags exclude => cases h
  | explicit content => cases h
  | filtered base' filter =>
    cases h
    exact ⟨filter, rfl⟩

/-- The circle that a chain ends in, if it ends in one. -/
def BaseChain.circle? : BaseChain → Option (List Ident)
  | root _ => none
  | missing _ _ => none
  | cycle _ path => some path
  | filtered _ _ base => base.circle?

namespace ViewSet

variable {set : ViewSet} {view baseView : View} {base : Ident} {filter : TagFilter}
  {path path' : List Ident}

/-- The base that the view of a name filters, if there is such a view and it filters one. -/
def base? (set : ViewSet) (id : Ident) : Option Ident :=
  (set.find? id).bind fun view => view.body.base?

/-- A view is found under its own name. -/
theorem id_of_find? {id : Ident} (h : set.find? id = some view) : view.id = id := by
  simpa using List.find?_some h

/-- The step from a view that is found is that of its body. -/
theorem base?_of_find? {id : Ident} (h : set.find? id = some view) :
    set.base? id = view.body.base? := by
  rw [base?, h, Option.bind_some]

/-- A name that leads on is that of a view of the set. -/
theorem exists_find?_of_base? {id : Ident} (h : set.base? id ≠ none) :
    ∃ view, set.find? id = some view := by
  cases hfind : set.find? id with
  | none => simp [base?, hfind] at h
  | some view => exact ⟨view, rfl⟩

/-- Only the names of the views lead on. -/
theorem mem_ids_of_base? {id : Ident} (h : set.base? id ≠ none) : id ∈ set.ids := by
  obtain ⟨view, hfind⟩ := exists_find?_of_base? h
  exact List.mem_map.2 ⟨view, List.mem_of_find?_eq_some hfind, id_of_find? hfind⟩

/-- A name that leads on is that of a filtered view. -/
theorem exists_filtered_of_base? {id : Ident} (h : set.base? id = some base) :
    ∃ view filter, set.find? id = some view ∧ view.body = .filtered base filter := by
  obtain ⟨view, hview⟩ := exists_find?_of_base? (by rw [h]; simp : set.base? id ≠ none)
  obtain ⟨filter, hbody⟩ := ViewBody.eq_filtered_of_base? (base?_of_find? hview ▸ h)
  exact ⟨view, filter, hview, hbody⟩

/-- A filtered view leads on to its base. -/
theorem base?_of_filtered {id : Ident} (h : set.find? id = some view)
    (hbody : view.body = .filtered base filter) : set.base? id = some base := by
  rw [base?_of_find? h, hbody]
  rfl

/-- A chain ends at a view that is not filtered. -/
theorem chainFrom_of_root (h : view.body.base? = none) : set.chainFrom path view = .root view := by
  rw [chainFrom]
  cases hbody : view.body with
  | selection criteria flags exclude => rfl
  | explicit content => rfl
  | filtered base filter => simp [hbody, ViewBody.base?] at h

/-- A chain ends at a view whose base does not exist. -/
theorem chainFrom_of_missing (h : view.body = .filtered base filter)
    (hbase : set.find? base = none) : set.chainFrom path view = .missing view base := by
  rw [chainFrom, h]
  simp only
  split
  · rfl
  · next hsome =>
    rw [hbase] at hsome
    cases hsome

/-- A chain ends where the base is a view that it has come through. -/
theorem chainFrom_of_mem (h : view.body = .filtered base filter)
    (hbase : set.find? base = some baseView) (hmem : base ∈ path) :
    set.chainFrom path view = .cycle view (path.dropWhile (· ≠ base) ++ [base]) := by
  rw [chainFrom, h]
  simp only
  split
  · next hnone =>
    rw [hbase] at hnone
    cases hnone
  · exact dif_pos hmem

/-- A chain goes on to a base that it has not come through. -/
theorem chainFrom_of_notMem (h : view.body = .filtered base filter)
    (hbase : set.find? base = some baseView) (hmem : base ∉ path) :
    set.chainFrom path view = .filtered view filter (set.chainFrom (path ++ [base]) baseView) := by
  rw [chainFrom, h]
  simp only
  split
  · next hnone =>
    rw [hbase] at hnone
    cases hnone
  · next hsome =>
    rw [hbase] at hsome
    cases hsome
    exact dif_neg hmem

/-- A chain starts at its view. -/
@[simp]
theorem view_chainFrom : (set.chainFrom path view).view = view := by
  rw [chainFrom]
  split
  · rfl
  · rfl
  · split
    · rfl
    · split <;> rfl

/-- Where the walk ends and meets none of them, the names that a chain has come through do not
matter. -/
theorem chainFrom_congr (hview : set.find? view.id = some view)
    (hends : WalkEnds set.base? view.id) (hpath : ∀ id, LeadsTo set.base? view.id id → id ∉ path)
    (hpath' : ∀ id, LeadsTo set.base? view.id id → id ∉ path') :
    set.chainFrom path view = set.chainFrom path' view := by
  -- by induction on the length of the walk, for all names that the two chains have come through
  have hends' := hends
  obtain ⟨n, last, hlast, hend⟩ := hends'
  induction n generalizing view path path' with
  | zero =>
    have hid : view.id = last := Option.some.inj hlast
    have hroot : view.body.base? = none := by
      rw [← base?_of_find? hview, hid, hend]
    rw [chainFrom_of_root hroot, chainFrom_of_root hroot]
  | succ n ih =>
    cases hstep : set.base? view.id with
    | none => simp [walk_succ, hstep] at hlast
    | some base =>
      obtain ⟨filter, hbody⟩ := ViewBody.eq_filtered_of_base? (base?_of_find? hview ▸ hstep)
      cases hbase : set.find? base with
      | none => rw [chainFrom_of_missing hbody hbase, chainFrom_of_missing hbody hbase]
      | some baseView =>
        have hid : baseView.id = base := id_of_find? hbase
        have hends' : WalkEnds set.base? base := hends.tail hstep
        -- the base is not met again, so it can join the names that the chain has come through
        have hfresh : ∀ {names : List Ident},
            (∀ id, LeadsTo set.base? view.id id → id ∉ names) →
            ∀ id, LeadsTo set.base? baseView.id id → id ∉ names ++ [base] := by
          intro names hnames id hleads
          rw [hid] at hleads
          rw [List.mem_append, List.mem_singleton, not_or]
          refine ⟨hnames id (hleads.head hstep), ?_⟩
          rintro rfl
          exact hends'.not_leadsTo_self hleads
        rw [chainFrom_of_notMem hbody hbase (hpath base (LeadsTo.of_next hstep)),
          chainFrom_of_notMem hbody hbase (hpath' base (LeadsTo.of_next hstep))]
        congr 1
        refine ih (hid ▸ hbase) (hid ▸ hends') (hfresh hpath) (hfresh hpath') ?_
        rw [hid, ← hlast, walk_succ, hstep, Option.bind_some]

/-- The chain of a view that filters nothing is the view alone. -/
theorem chain_of_root (h : view.body.base? = none) : set.chain view = .root view :=
  chainFrom_of_root h

/-- The chain of a view whose base does not exist ends at once. -/
theorem chain_of_missing (h : view.body = .filtered base filter)
    (hbase : set.find? base = none) : set.chain view = .missing view base :=
  chainFrom_of_missing h hbase

/-- Where the walk ends, the chain of a filtered view is that of its base with one more filter. -/
theorem chain_of_base (hview : set.find? view.id = some view)
    (h : view.body = .filtered base filter) (hbase : set.find? base = some baseView)
    (hends : WalkEnds set.base? view.id) :
    set.chain view = .filtered view filter (set.chain baseView) := by
  have hid : baseView.id = base := id_of_find? hbase
  have hstep : set.base? view.id = some baseView.id := hid ▸ base?_of_filtered hview h
  have hends' : WalkEnds set.base? baseView.id := hends.tail hstep
  have hmem : base ∉ [view.id] := by
    rw [List.mem_singleton, ← hid]
    intro heq
    rw [heq] at hstep
    exact hends.not_leadsTo_self (LeadsTo.of_next hstep)
  rw [chain, chainFrom_of_notMem h hbase hmem, chain, List.singleton_append, ← hid]
  congr 1
  -- neither the view nor its base is met again behind the base
  refine chainFrom_congr (hid ▸ hbase) hends' ?_ ?_
  · intro id hleads
    rw [List.mem_pair, not_or]
    refine ⟨?_, ?_⟩
    · rintro rfl
      exact hends.not_leadsTo_self (hleads.head hstep)
    · rintro rfl
      exact hends'.not_leadsTo_self hleads
  · intro id hleads
    rw [List.mem_singleton]
    rintro rfl
    exact hends'.not_leadsTo_self hleads

/-- Where the walk ends, the chain does not end in a circle. -/
theorem circle?_chain_of_walkEnds (hview : set.find? view.id = some view)
    (hends : WalkEnds set.base? view.id) : (set.chain view).circle? = none := by
  have hends' := hends
  -- by induction on the length of the walk: the chain of a view ends as that of its base
  obtain ⟨n, last, hlast, hend⟩ := hends'
  induction n generalizing view with
  | zero =>
    have hid : view.id = last := Option.some.inj hlast
    rw [chain_of_root (by rw [← base?_of_find? hview, hid, hend])]
    rfl
  | succ n ih =>
    cases hstep : set.base? view.id with
    | none => simp [walk_succ, hstep] at hlast
    | some base =>
      obtain ⟨filter, hbody⟩ := ViewBody.eq_filtered_of_base? (base?_of_find? hview ▸ hstep)
      cases hbase : set.find? base with
      | none =>
        rw [chain_of_missing hbody hbase]
        rfl
      | some baseView =>
        have hid : baseView.id = base := id_of_find? hbase
        rw [chain_of_base hview hbody hbase hends]
        refine ih (hid ▸ hbase) (hid ▸ hends.tail hstep) ?_
        rw [hid, ← hlast, walk_succ, hstep, Option.bind_some]

section Circle

variable {id entry : Ident} {i j : Nat}

/-- Every view on a walk that returns filters a view of the set. -/
theorem exists_base_of_firstReturn (h : FirstReturn set.base? id i j) {k : Nat}
    (hview : set.find? view.id = some view) (hwalk : walk set.base? k id = some view.id) :
    ∃ base filter baseView, view.body = .filtered base filter ∧
      set.find? base = some baseView ∧ walk set.base? (k + 1) id = some base := by
  have hleads : ∀ {m name}, walk set.base? m id = some name → set.base? name ≠ none :=
    fun hm hnext => h.not_walkEnds ⟨_, _, hm, hnext⟩
  obtain ⟨base, hstep⟩ := Option.ne_none_iff_exists'.1 (hleads hwalk)
  have hwalk' : walk set.base? (k + 1) id = some base := by
    rw [walk_succ_last, hwalk, Option.bind_some, hstep]
  obtain ⟨baseView, hbase⟩ := exists_find?_of_base? (hleads hwalk')
  obtain ⟨filter, hbody⟩ := ViewBody.eq_filtered_of_base? (base?_of_find? hview ▸ hstep)
  exact ⟨base, filter, baseView, hbody, hbase, hwalk'⟩

/-- Along a walk that returns, the chain ends in the closed path from the member to which the walk
returns. -/
theorem circle?_chainFrom (h : FirstReturn set.base? id i j)
    (hentry : walk set.base? i id = some entry) {n k : Nat} (hk : k + n + 1 = j)
    (hview : set.find? view.id = some view) (hwalk : walk set.base? k id = some view.id) :
    (set.chainFrom (trail set.base? (k + 1) id) view).circle? =
      some (trail set.base? (j - i + 1) entry) := by
  obtain ⟨base, filter, baseView, hbody, hbase, hwalk'⟩ :=
    exists_base_of_firstReturn h hview hwalk
  -- by induction on the number of views before the return
  induction n generalizing k view base filter baseView with
  | zero =>
    -- the last view before the return: its base is the member returned to
    obtain rfl : base = entry := by
      rw [← hk, Nat.add_zero] at h
      rw [h.back, hentry] at hwalk'
      exact (Option.some.inj hwalk').symm
    have hmem : base ∈ trail set.base? (k + 1) id :=
      mem_trail.2 ⟨i, hk ▸ h.lt, hentry⟩
    rw [chainFrom_of_mem hbody hbase hmem, ← h.dropWhile_trail hentry, ← hk, Nat.add_zero]
    rfl
  | succ n ih =>
    have hid : baseView.id = base := id_of_find? hbase
    have hmem : base ∉ trail set.base? (k + 1) id := by
      rw [mem_trail]
      rintro ⟨m, hm, hbase'⟩
      exact h.distinct m (k + 1) hm (by omega) (by rw [hbase', hwalk'])
    have hpath : trail set.base? (k + 1) id ++ [base] = trail set.base? (k + 1 + 1) id := by
      rw [trail_add hwalk', trail_one]
    obtain ⟨base', filter', baseView', hbody', hbase', hwalk''⟩ :=
      exists_base_of_firstReturn h (hid ▸ hbase) (hid ▸ hwalk')
    rw [chainFrom_of_notMem hbody hbase hmem, hpath]
    exact ih (by omega) (hid ▸ hbase) (hid ▸ hwalk') base' filter' baseView' hbody' hbase' hwalk''

/-- The chain of a view whose walk returns ends in the closed path from the member to which the
walk returns. -/
theorem circle?_chain (hview : set.find? view.id = some view)
    (h : FirstReturn set.base? view.id i j) (hentry : walk set.base? i view.id = some entry) :
    (set.chain view).circle? = some (trail set.base? (j - i + 1) entry) := by
  have hchain := circle?_chainFrom h hentry (by have := h.lt; omega : 0 + (j - 1) + 1 = j) hview
    walk_zero
  rwa [Nat.zero_add, trail_one] at hchain

end Circle

end ViewSet

end Viewpoint
