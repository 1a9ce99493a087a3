import Viewpoint.Containment
import Viewpoint.Proofs.Walk

/-!
# Climbing and walks of holders

Climbing from an element follows the walk of its holders and stops where the walk ends or comes back
to a member of the path. Nothing else stops it, so a climb is what looking above an element comes to
when its bound does not matter.

* `climb` is the way up from an element and `ancestors` what lies on it above the element.
* `climbFrom_of_none`, `climbFrom_of_mem` and `climbFrom_of_notMem` are the three ways in which a
  climb goes on.
* `prefix_climbFrom` and `nodup_climbFrom` say that a climb only adds to its path, and nothing that
  is there already.
-/

namespace Viewpoint

namespace Containment

variable {c : Containment} {path : List Ident} {last parent : Ident}

/-- Goes on climbing from the last member of a path and lists all of the way. -/
def climbFrom (c : Containment) (path : List Ident) (last : Ident) : List Ident :=
  match _h : c.parent? last with
  | none => path
  | some parent => if _hmem : parent ∈ path then path else climbFrom c (path ++ [parent]) parent
termination_by (c.placements.filter fun p => p.parent ∉ path).length
decreasing_by
  refine length_filter_lt (x := ⟨last, parent⟩) ?_ (mem_placements_of_parent? _h) ?_ ?_
  · intro p hp
    simp only [decide_eq_true_eq, List.mem_append, not_or] at hp ⊢
    exact hp.1
  · simpa using _hmem
  · simp

/-- The way up from an element: the element and then holder after holder, none of them twice. -/
def climb (c : Containment) (id : Ident) : List Ident :=
  c.climbFrom [id] id

/-- The holders above an element, the nearest first, up to where climbing ends or comes back. -/
def ancestors (c : Containment) (id : Ident) : List Ident :=
  (c.climb id).tail

/-- A climb ends at an element without a holder. -/
theorem climbFrom_of_none (h : c.parent? last = none) : c.climbFrom path last = path := by
  rw [climbFrom]
  split
  · rfl
  · next hsome =>
    rw [h] at hsome
    cases hsome

/-- A climb comes back when the next holder is on the path. -/
theorem climbFrom_of_mem (h : c.parent? last = some parent) (hmem : parent ∈ path) :
    c.climbFrom path last = path := by
  rw [climbFrom]
  split
  · rfl
  · next hsome =>
    rw [h] at hsome
    cases hsome
    exact dif_pos hmem

/-- A climb goes on to a holder that is not on the path. -/
theorem climbFrom_of_notMem (h : c.parent? last = some parent) (hmem : parent ∉ path) :
    c.climbFrom path last = c.climbFrom (path ++ [parent]) parent := by
  rw [climbFrom]
  split
  · next hnone =>
    rw [h] at hnone
    cases hnone
  · next hsome =>
    rw [h] at hsome
    cases hsome
    exact dif_neg hmem

/-- A climb adds to the path that it has come along. -/
theorem prefix_climbFrom (c : Containment) (path : List Ident) (last : Ident) :
    path <+: c.climbFrom path last := by
  -- by induction along the climb: it stops, or one member is added before it goes on
  induction path, last using climbFrom.induct c with
  | case1 path last hnone => rw [climbFrom_of_none hnone]
  | case2 path last parent hparent hmem => rw [climbFrom_of_mem hparent hmem]
  | case3 path last parent hparent hmem ih =>
    rw [climbFrom_of_notMem hparent hmem]
    exact (List.prefix_append path [parent]).trans ih

/-- A climb lists nothing twice. -/
theorem nodup_climbFrom (h : path.Nodup) : (c.climbFrom path last).Nodup := by
  induction path, last using climbFrom.induct c with
  | case1 path last hnone => rwa [climbFrom_of_none hnone]
  | case2 path last parent hparent hmem => rwa [climbFrom_of_mem hparent hmem]
  | case3 path last parent hparent hmem ih =>
    rw [climbFrom_of_notMem hparent hmem]
    exact ih (List.concat_eq_append ▸ h.concat hmem)

end Containment

end Viewpoint
