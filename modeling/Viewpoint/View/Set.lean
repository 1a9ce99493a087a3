import Viewpoint.FilterCount
import Viewpoint.View.Basic
import Viewpoint.View.Fault

/-!
# Sets of views

Views are composed together, as one may filter another. A set holds views with distinct names in the
order in which they are declared. Following the base of filtered views gives the base chain of a
view; it ends at a view that is not filtered, at a base that does not exist, or where it comes back
to itself.

* `ViewSet.ofViews` makes a set of views with distinct names.
* `ViewSet.chain` is the base chain of a view.
-/

namespace Viewpoint

/-- The first member of a list that is also an earlier member or one of `seen`. -/
def firstRepeated (seen : List Ident) : List Ident → Option Ident
  | [] => none
  | id :: rest => if id ∈ seen then some id else firstRepeated (id :: seen) rest

/-- A list has distinct members, none of them in `seen`, when none of its members is repeated. -/
theorem nodup_of_firstRepeated {seen ids : List Ident} (h : firstRepeated seen ids = none) :
    ids.Nodup ∧ ∀ id ∈ ids, id ∉ seen := by
  induction ids generalizing seen with
  | nil => simp
  | cons id rest ih =>
    simp only [firstRepeated] at h
    split at h
    · simp at h
    · next hid =>
      obtain ⟨hrest, hseen⟩ := ih h
      refine ⟨List.nodup_cons.2 ⟨fun hmem => hseen id hmem (by simp), hrest⟩, ?_⟩
      intro other hother
      rcases List.mem_cons.1 hother with rfl | hother
      · exact hid
      · exact fun hmem => hseen other hother (by simp [hmem])

/-- Views with distinct names, in the order in which they are declared. -/
structure ViewSet where
  /-- The views. -/
  views : List View
  /-- No two views have the same name. -/
  distinct : (views.map View.id).Nodup

/-- A view with the chain of the views that it is based on. -/
inductive BaseChain where
  /-- A view that is not filtered ends the chain. -/
  | root (view : View)
  /-- A filtered view whose base does not exist. -/
  | missing (view : View) (base : Ident)
  /-- A filtered view whose base is a view that the chain has come through; the path leads from that
  view back to itself. -/
  | cycle (view : View) (path : List Ident)
  /-- A filtered view and the chain of its base. -/
  | filtered (view : View) (filter : TagFilter) (base : BaseChain)

/-- The view at the start of a chain. -/
def BaseChain.view : BaseChain → View
  | root view => view
  | missing view _ => view
  | cycle view _ => view
  | filtered view _ _ => view

namespace ViewSet

/-- The set without views. -/
def empty : ViewSet := ⟨[], List.nodup_nil⟩

instance : EmptyCollection ViewSet := ⟨empty⟩

instance : Inhabited ViewSet := ⟨empty⟩

/-- The set of the given views, unless two of them have the same name. -/
def ofViews (views : List View) : Except ViewError ViewSet :=
  match h : firstRepeated [] (views.map View.id) with
  | some id => .error (.duplicateView id)
  | none => .ok ⟨views, (nodup_of_firstRepeated h).1⟩

/-- The view with a name. -/
def find? (set : ViewSet) (id : Ident) : Option View :=
  set.views.find? (·.id = id)

/-- The names of the views. -/
def ids (set : ViewSet) : List Ident :=
  set.views.map View.id

/-- The chain of the views that a view is based on; `trail` are the names that the chain has come
through, that of the view included. -/
def chainFrom (set : ViewSet) (trail : List Ident) (view : View) : BaseChain :=
  match view.body with
  | .selection .. => .root view
  | .explicit _ => .root view
  | .filtered base filter =>
    match _h : set.find? base with
    | none => .missing view base
    | some baseView =>
      if _hmem : base ∈ trail then .cycle view (trail.dropWhile (· ≠ base) ++ [base])
      else .filtered view filter (set.chainFrom (trail ++ [base]) baseView)
termination_by (set.views.filter fun v => v.id ∉ trail).length
decreasing_by
  have hid : baseView.id = base := by simpa using List.find?_some _h
  refine length_filter_lt (x := baseView) ?_ (List.mem_of_find?_eq_some _h) ?_ ?_
  · intro v hv
    simp only [decide_eq_true_eq, List.mem_append, not_or] at hv ⊢
    exact hv.1
  · simpa [hid] using _hmem
  · simp [hid]

/-- The chain of the views that a view is based on. -/
def chain (set : ViewSet) (view : View) : BaseChain :=
  set.chainFrom [view.id] view

end ViewSet

end Viewpoint
