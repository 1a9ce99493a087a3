import Mathlib.Data.List.Nodup
import Viewpoint.Proofs.Containment.Depth

/-!
# Bounds that do not matter

Looking above and below an element stops at a bound. What is listed then is the beginning of what
would be listed without it, and nothing is cut off when the bound is at least the number of elements
among which elements are placed, as nothing is listed twice. This holds of every containment, also
of one that runs in a circle.

* `ancestorsWithin_eq_take` and `descendantsWithin_eq_take` say what is listed within any bound.
* `Visiting` is what going on from holder to holder preserves when it looks for one of them.
* `PlacesAmong` says among which elements elements are placed. `ancestorsWithin_eq`,
  `descendantsWithin_eq` and `isAncestorWithin_iff` say that a bound of so many does not matter.
-/

namespace Viewpoint

namespace Containment

variable {c : Containment} {id last ancestor : Ident} {bound : Nat} {members : List Ident}

/-- Within a bound the climb is listed up to there. -/
theorem holdersFrom_eq_take (c : Containment) (id : Ident) (listed : List Ident) (last : Ident)
    (bound : Nat) : c.holdersFrom id listed last bound =
      (c.climbFrom (id :: listed) last).tail.take (listed.length + bound) := by
  -- by induction on the bound, for any holders that are listed already
  induction bound generalizing listed last with
  | zero =>
    obtain ⟨rest, hclimb⟩ := c.prefix_climbFrom (id :: listed) last
    rw [holdersFrom, ← hclimb, List.cons_append, List.tail_cons, Nat.add_zero, List.take_left]
  | succ bound ih =>
    have hlisted : listed.take (listed.length + (bound + 1)) = listed :=
      List.take_of_length_le (Nat.le_add_right _ _)
    rw [holdersFrom]
    cases hparent : c.parent? last with
    | none => rw [climbFrom_of_none hparent, List.tail_cons, hlisted]
    | some holder =>
      dsimp only
      by_cases hmem : holder ∈ id :: listed
      · rw [if_pos (List.mem_cons.1 hmem).symm, climbFrom_of_mem hparent hmem, List.tail_cons,
          hlisted]
      · rw [if_neg (mt (fun h => List.mem_cons.2 h.symm) hmem), ih,
          climbFrom_of_notMem hparent hmem, List.cons_append, List.length_append,
          List.length_singleton, Nat.add_assoc, Nat.add_comm 1]

/-- Within a bound the first holders are listed. -/
theorem ancestorsWithin_eq_take (c : Containment) (bound : Nat) (id : Ident) :
    c.ancestorsWithin bound id = (c.ancestors id).take bound := by
  rw [ancestorsWithin, holdersFrom_eq_take, List.length_nil, Nat.zero_add, ancestors, climb]

section Sweep

variable {seen awaiting rest : List Ident} {next : Ident}

/-- Within no bound nothing is listed. -/
theorem sweepWithin_zero (c : Containment) (seen awaiting : List Ident) :
    c.sweepWithin 0 seen awaiting = [] := by
  cases awaiting <;> rw [sweepWithin]

/-- An element that is seen is passed over, whatever the bound is. -/
theorem sweepWithin_of_mem (h : next ∈ seen) :
    c.sweepWithin bound seen (next :: rest) = c.sweepWithin bound seen rest := by
  cases bound with
  | zero => rw [sweepWithin_zero, sweepWithin_zero]
  | succ bound => rw [sweepWithin, dif_pos h]

/-- An element that is not seen is listed and counts for the bound. -/
theorem sweepWithin_of_notMem (h : next ∉ seen) :
    c.sweepWithin (bound + 1) seen (next :: rest) =
      next :: c.sweepWithin bound (next :: seen) (c.children next ++ rest) := by
  rw [sweepWithin, dif_neg h]

/-- Within a bound the sweep is listed up to there. -/
theorem sweepWithin_eq_take (c : Containment) (bound : Nat) (seen awaiting : List Ident) :
    c.sweepWithin bound seen awaiting = (c.sweep seen awaiting).take bound := by
  -- by induction along the sweep, for every bound: what is passed over does not count for it
  induction seen, awaiting using sweep.induct c generalizing bound with
  | case1 seen => rw [sweepWithin, sweep_nil, List.take_nil]
  | case2 seen next rest hmem ih => rw [sweepWithin_of_mem hmem, sweep_of_mem hmem, ih]
  | case3 seen next rest hmem ih =>
    cases bound with
    | zero => rw [sweepWithin_zero, List.take_zero]
    | succ bound =>
      rw [sweepWithin_of_notMem hmem, sweep_of_notMem hmem, ih, List.take_succ_cons]

end Sweep

/-- Within a bound the first of those below an element are listed. -/
theorem descendantsWithin_eq_take (c : Containment) (bound : Nat) (id : Ident) :
    c.descendantsWithin bound id = (c.descendants id).take bound :=
  c.sweepWithin_eq_take bound [id] (c.children id)

/-- Elements are only placed among some members. -/
structure PlacesAmong (c : Containment) (members : List Ident) : Prop where
  /-- What is placed is a member. -/
  child_mem : ∀ {child parent : Ident}, c.parent? child = some parent → child ∈ members
  /-- What it is placed in is a member. -/
  parent_mem : ∀ {child parent : Ident}, c.parent? child = some parent → parent ∈ members

/-- Looking for an element has visited some holders, from the start up to the last one. -/
structure Visiting (c : Containment) (members visited : List Ident) (ancestor last : Ident) :
    Prop where
  /-- No holder is visited twice. -/
  nodup : visited.Nodup
  /-- All of them are members. -/
  subset : visited ⊆ members
  /-- The one that is looked for is none of them. -/
  missed : ancestor ∉ visited
  /-- From all but the last one, the next holder is visited, too. -/
  next_mem : ∀ name ∈ visited, name ≠ last → ∃ holder ∈ visited, c.parent? name = some holder

namespace Visiting

variable {visited : List Ident} {holder : Ident}

/-- One more holder is visited. -/
theorem cons (h : Visiting c members visited ancestor last) (hparent : c.parent? last = some holder)
    (hplaces : c.PlacesAmong members) (hne : holder ≠ ancestor) (hfresh : holder ∉ visited) :
    Visiting c members (holder :: visited) ancestor holder where
  nodup := List.nodup_cons.2 ⟨hfresh, h.nodup⟩
  subset := List.cons_subset.2 ⟨hplaces.parent_mem hparent, h.subset⟩
  missed := List.not_mem_cons_of_ne_of_not_mem hne.symm h.missed
  next_mem name hname hlast := by
    have hvisited : name ∈ visited := (List.mem_cons.1 hname).resolve_left hlast
    -- the holder of the one that was last is visited now
    by_cases heq : name = last
    · exact ⟨holder, List.mem_cons_self, heq ▸ hparent⟩
    · obtain ⟨next, hnext, hstep⟩ := h.next_mem name hvisited heq
      exact ⟨next, List.mem_cons_of_mem _ hnext, hstep⟩

/-- When a holder is visited again, the one that is looked for is not met any more. -/
theorem not_leadsTo (h : Visiting c members visited ancestor last)
    (hparent : c.parent? last = some holder) (hmem : holder ∈ visited) :
    ¬ LeadsTo c.parent? last ancestor := by
  have hclosed : ∀ name, name = last ∨ name ∈ visited →
      ∃ next ∈ visited, c.parent? name = some next := by
    intro name hname
    by_cases heq : name = last
    · exact ⟨holder, hmem, heq ▸ hparent⟩
    · exact h.next_mem name (hname.resolve_left heq) heq
  rintro ⟨n, hn⟩
  -- by induction on the steps: no step leads out of what is visited
  have hvisited : ∀ n name, walk c.parent? (n + 1) last = some name → name ∈ visited := by
    intro n
    induction n with
    | zero =>
      intro name hname
      rw [Nat.zero_add, walk_one, hparent] at hname
      exact Option.some.inj hname ▸ hmem
    | succ n ih =>
      intro name hname
      rw [walk_succ_last] at hname
      obtain ⟨before, hbefore, hstep⟩ := Option.bind_eq_some_iff.1 hname
      obtain ⟨next, hnext, hstep'⟩ := hclosed before (Or.inr (ih before hbefore))
      rw [hstep] at hstep'
      exact Option.some.inj hstep' ▸ hnext
  exact h.missed (hvisited n ancestor hn)

/-- Going on from holder to holder finds the one that is looked for, if all members that are not
visited yet fit into the bound. -/
theorem meetsFrom_iff (h : Visiting c members visited ancestor last)
    (hplaces : c.PlacesAmong members) (hbound : members.length ≤ visited.length + bound) :
    c.meetsFrom ancestor visited last bound = true ↔ LeadsTo c.parent? last ancestor := by
  -- by induction on the bound: one more holder is visited and one fewer is left
  induction bound generalizing visited last with
  | zero =>
    rw [meetsFrom, beq_iff_eq]
    refine ⟨LeadsTo.of_next, fun hleads => ?_⟩
    obtain ⟨holder, hparent⟩ := hleads.exists_next
    by_cases hne : holder = ancestor
    · exact hne ▸ hparent
    -- all members are visited, so this one is visited again
    · by_cases hmem : holder ∈ visited
      · exact absurd hleads (h.not_leadsTo hparent hmem)
      · have hmore := h.cons hparent hplaces hne hmem
        have hle := hmore.nodup.length_le_of_subset hmore.subset
        rw [List.length_cons] at hle
        omega
  | succ bound ih =>
    rw [meetsFrom]
    cases hparent : c.parent? last with
    | none =>
      refine iff_of_false Bool.false_ne_true fun hleads => ?_
      obtain ⟨holder, hsome⟩ := hleads.exists_next
      rw [hparent] at hsome
      cases hsome
    | some holder =>
      dsimp only
      rw [Bool.or_eq_true, beq_iff_eq, Bool.and_eq_true, Bool.not_eq_true', List.contains_eq_mem,
        decide_eq_false_iff_not]
      by_cases hne : holder = ancestor
      · exact iff_of_true (Or.inl hne) (.of_next (hne ▸ hparent))
      by_cases hmem : holder ∈ visited
      · exact iff_of_false (by simp [hne, hmem]) (h.not_leadsTo hparent hmem)
      · have hrest := ih (h.cons hparent hplaces hne hmem) (by rw [List.length_cons]; omega)
        rw [or_iff_right hne, and_iff_right hmem, hrest, leadsTo_iff_of_next hparent,
          or_iff_right hne]

end Visiting

section Enough

variable (hplaces : c.PlacesAmong members) (hbound : members.length ≤ bound)

include hplaces hbound

/-- A bound of as many as there are members does not cut off any holders. -/
theorem ancestorsWithin_eq (id : Ident) : c.ancestorsWithin bound id = c.ancestors id := by
  have hsubset : c.ancestors id ⊆ members := by
    intro other hother
    obtain ⟨name, hparent⟩ := (mem_ancestors_iff.1 hother).2.exists_last
    exact hplaces.parent_mem hparent
  have hlength := (c.nodup_cons_ancestors id).of_cons.length_le_of_subset hsubset
  rw [ancestorsWithin_eq_take, List.take_of_length_le (hlength.trans hbound)]

/-- A bound of as many as there are members does not cut off anything below an element. -/
theorem descendantsWithin_eq (id : Ident) : c.descendantsWithin bound id = c.descendants id := by
  have hsubset : c.descendants id ⊆ members := by
    intro other hother
    obtain ⟨holder, hparent⟩ := (mem_descendants_iff.1 hother).2.exists_next
    exact hplaces.child_mem hparent
  have hlength := (c.nodup_descendants id).length_le_of_subset hsubset
  rw [descendantsWithin_eq_take, List.take_of_length_le (hlength.trans hbound)]

/-- One element lies inside another when the walk of its holders meets the other one, if the bound
is as many as there are members. -/
theorem isAncestorWithin_iff :
    c.isAncestorWithin bound ancestor id = true ↔ LeadsTo c.parent? id ancestor :=
  Visiting.meetsFrom_iff ⟨List.nodup_nil, List.nil_subset _, List.not_mem_nil, by simp⟩ hplaces
    (by rwa [List.length_nil, Nat.zero_add])

end Enough

/-- Whether an element lies inside another depends on the holders only. -/
theorem isAncestorWithin_congr {c' : Containment} (h : ∀ id, c'.parent? id = c.parent? id)
    (bound : Nat) (ancestor id : Ident) :
    c'.isAncestorWithin bound ancestor id = c.isAncestorWithin bound ancestor id := by
  have hmeets : ∀ visited last,
      c'.meetsFrom ancestor visited last bound = c.meetsFrom ancestor visited last bound := by
    induction bound with
    | zero =>
      intro visited last
      rw [meetsFrom, meetsFrom, h]
    | succ bound ih =>
      intro visited last
      rw [meetsFrom, meetsFrom, h]
      simp only [ih]
  exact hmeets [] id

end Containment

end Viewpoint
