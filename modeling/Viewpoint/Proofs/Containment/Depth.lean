import Viewpoint.Proofs.Containment.Climbing
import Viewpoint.Proofs.Containment.Placing

/-!
# What lies above and below an element

Climbing from an element follows the walk of its holders as long as nothing is met twice, and a
sweep below an element lists what the holders lead back from. So both directions say the same: one
element lies inside another, at some depth, exactly when the walk of its holders meets the other
one. This holds of every containment, also of one that runs in a circle.

* `climb_of_end` and `climb_of_firstReturn` say what a climb lists.
* `Within` is an element with all that lies below it.
* `sweep` lists what lies below an element, as far as it is not seen before, and `descendants` all
  that does; both go on without a bound.
* `mem_ancestors_iff` and `mem_descendants_iff` say what is above and what is below an element, and
  `nodup_descendants` that nothing is listed twice.
-/

namespace Viewpoint

namespace Containment

variable {c : Containment} {id last entry other : Ident}

/-- As long as nothing is met twice a climb follows the walk of holders. -/
theorem climb_eq_climbFrom {n : Nat} (hlast : walk c.parent? n id = some last)
    (hdistinct : ∀ i j, i < j → j ≤ n → walk c.parent? i id ≠ walk c.parent? j id) :
    c.climb id = c.climbFrom (trail c.parent? (n + 1) id) last := by
  -- by induction on the steps: the next holder is none of those on the path
  induction n generalizing last with
  | zero =>
    obtain rfl : id = last := Option.some.inj hlast
    rw [climb, Nat.zero_add, trail_one]
  | succ n ih =>
    obtain ⟨name, hname⟩ := exists_walk_of_le n.le_succ hlast
    have hparent : c.parent? name = some last := by
      rwa [walk_succ_last, hname, Option.bind_some] at hlast
    have hfresh : last ∉ trail c.parent? (n + 1) id := by
      rw [mem_trail]
      rintro ⟨i, hi, hmet⟩
      exact hdistinct i (n + 1) hi le_rfl (by rw [hmet, hlast])
    rw [ih hname fun i j hij hj => hdistinct i j hij (Nat.le_succ_of_le hj),
      climbFrom_of_notMem hparent hfresh, trail_add hlast, trail_one]

/-- A climb along a walk with an end lists the walk. -/
theorem climb_of_end {n : Nat} (hlast : walk c.parent? n id = some last)
    (hend : c.parent? last = none) : c.climb id = trail c.parent? (n + 1) id := by
  rw [climb_eq_climbFrom hlast fun i j hij hj => walk_ne_of_end hlast hend hij hj,
    climbFrom_of_none hend]

/-- A climb along a walk that returns lists the walk up to there. -/
theorem climb_of_firstReturn {i j : Nat} (h : FirstReturn c.parent? id i j)
    (hentry : walk c.parent? i id = some entry) : c.climb id = trail c.parent? j id := by
  obtain ⟨n, rfl⟩ : ∃ n, j = n + 1 := Nat.exists_eq_succ_of_ne_zero (Nat.ne_zero_of_lt h.lt)
  have hback : walk c.parent? (n + 1) id = some entry := h.back.trans hentry
  obtain ⟨name, hname⟩ := exists_walk_of_le n.le_succ hback
  have hparent : c.parent? name = some entry := by
    rwa [walk_succ_last, hname, Option.bind_some] at hback
  have hmem : entry ∈ trail c.parent? (n + 1) id := mem_trail.2 ⟨i, h.lt, hentry⟩
  rw [climb_eq_climbFrom hname fun p q hpq hq => h.distinct p q hpq (Nat.lt_succ_of_le hq),
    climbFrom_of_mem hparent hmem]

/-- The walk of holders ends or returns, as only finitely many elements are placed. -/
theorem walk_parent?_cases (c : Containment) (id : Ident) :
    (∃ n last, walk c.parent? n id = some last ∧ c.parent? last = none) ∨
      ∃ i j entry, FirstReturn c.parent? id i j ∧ walk c.parent? i id = some entry := by
  have hmem : ∀ child, c.parent? child ≠ none → child ∈ c.placements.map Placement.child :=
    fun child h => Decidable.not_not.1 (mt parent?_eq_none_iff.2 h)
  rcases walkEnds_or_firstReturn hmem with hends | ⟨i, j, h⟩
  · exact Or.inl hends
  · obtain ⟨final, hfinal⟩ := Option.isSome_iff_exists.1 h.long
    obtain ⟨entry, hentry⟩ := exists_walk_of_le h.lt.le hfinal
    exact Or.inr ⟨i, j, entry, h, hentry⟩

/-- Behind the start of a walk with an end, the trail up to there lists all that it meets. -/
theorem mem_tail_of_end {n : Nat} (hlast : walk c.parent? n id = some last)
    (hend : c.parent? last = none) :
    other ∈ (trail c.parent? (n + 1) id).tail ↔ LeadsTo c.parent? id other := by
  rw [mem_tail_trail]
  constructor
  · rintro ⟨k, -, hk⟩
    exact ⟨k, hk⟩
  · rintro ⟨k, hk⟩
    refine ⟨k, Nat.lt_of_not_le fun hle => ?_, hk⟩
    rw [walk_eq_none_of_end hlast hend (Nat.lt_succ_of_le hle)] at hk
    cases hk

/-- A climb lists a walk up to where there is no further step or the next one leads back to what is
listed. -/
theorem exists_climb_eq_trail (c : Containment) (id : Ident) :
    ∃ n last, walk c.parent? n id = some last ∧ c.climb id = trail c.parent? (n + 1) id ∧
      ∀ holder, c.parent? last = some holder → holder ∈ trail c.parent? (n + 1) id := by
  rcases walk_parent?_cases c id with ⟨n, last, hlast, hend⟩ | ⟨i, j, entry, h, hentry⟩
  · refine ⟨n, last, hlast, climb_of_end hlast hend, fun holder hholder => ?_⟩
    rw [hend] at hholder
    cases hholder
  · obtain ⟨n, rfl⟩ : ∃ n, j = n + 1 := Nat.exists_eq_succ_of_ne_zero (Nat.ne_zero_of_lt h.lt)
    have hback : walk c.parent? (n + 1) id = some entry := h.back.trans hentry
    obtain ⟨last, hlast⟩ := exists_walk_of_le n.le_succ hback
    refine ⟨n, last, hlast, climb_of_firstReturn h hentry, fun holder hholder => ?_⟩
    -- the next holder is the one to which the walk returns
    rw [walk_succ_last, hlast, Option.bind_some, hholder] at hback
    exact Option.some.inj hback ▸ mem_trail.2 ⟨i, h.lt, hentry⟩

/-- Above an element are the others that the walk of its holders meets. -/
theorem mem_ancestors_iff :
    other ∈ c.ancestors id ↔ other ≠ id ∧ LeadsTo c.parent? id other := by
  rw [ancestors]
  rcases walk_parent?_cases c id with ⟨n, last, hlast, hend⟩ | ⟨i, j, entry, h, hentry⟩
  · rw [climb_of_end hlast hend, mem_tail_of_end hlast hend]
    refine ⟨fun hleads => ⟨?_, hleads⟩, And.right⟩
    rintro rfl
    exact WalkEnds.not_leadsTo_self ⟨n, last, hlast, hend⟩ hleads
  · obtain ⟨n, rfl⟩ : ∃ n, j = n + 1 := Nat.exists_eq_succ_of_ne_zero (Nat.ne_zero_of_lt h.lt)
    rw [climb_of_firstReturn h hentry, h.leadsTo_iff, mem_tail_trail]
    constructor
    · rintro ⟨k, hk, hmeets⟩
      refine ⟨?_, k, Nat.lt_succ_of_lt hk, hmeets⟩
      rintro rfl
      exact h.distinct 0 (k + 1) k.succ_pos (Nat.succ_lt_succ hk) hmeets.symm
    · rintro ⟨hne, k, hk, hmeets⟩
      rcases Nat.lt_succ_iff_lt_or_eq.1 hk with hlt | rfl
      · exact ⟨k, hlt, hmeets⟩
      -- what is met at the return was met before, and not at the start
      · rw [h.back] at hmeets
        cases i with
        | zero => exact absurd (Option.some.inj hmeets).symm hne
        | succ i => exact ⟨i, Nat.lt_of_succ_lt_succ h.lt, hmeets⟩

/-- A climb starts at the element. -/
theorem cons_ancestors (c : Containment) (id : Ident) : id :: c.ancestors id = c.climb id := by
  obtain ⟨above, hclimb⟩ := c.prefix_climbFrom [id] id
  rw [ancestors, climb, ← hclimb]
  rfl

/-- Nothing is listed twice above an element, and not the element itself. -/
theorem nodup_cons_ancestors (c : Containment) (id : Ident) : (id :: c.ancestors id).Nodup := by
  rw [cons_ancestors]
  exact nodup_climbFrom (List.nodup_singleton id)

/-- The holders above an element are listed in their turn. -/
theorem getElem?_ancestors {k : Nat} (hk : k < (c.ancestors id).length) :
    (c.ancestors id)[k]? = walk c.parent? (k + 1) id := by
  obtain ⟨n, last, hlast, hclimb, -⟩ := c.exists_climb_eq_trail id
  have hlt : k + 1 < n + 1 := by
    rw [← length_trail hlast, ← hclimb, ← cons_ancestors, List.length_cons]
    exact Nat.succ_lt_succ hk
  calc (c.ancestors id)[k]? = (id :: c.ancestors id)[k + 1]? := List.getElem?_cons_succ.symm
    _ = (trail c.parent? (n + 1) id)[k + 1]? := by rw [cons_ancestors, hclimb]
    _ = walk c.parent? (k + 1) id := by rw [getElem?_trail, if_pos hlt]

/-- The holder above the last one that is listed, if there is one, is the element or listed
already. -/
theorem mem_cons_ancestors_of_walk {holder : Ident}
    (h : walk c.parent? ((c.ancestors id).length + 1) id = some holder) :
    holder ∈ id :: c.ancestors id := by
  obtain ⟨n, last, hlast, hclimb, hend⟩ := c.exists_climb_eq_trail id
  have hlength : (c.ancestors id).length + 1 = n + 1 := by
    rw [← length_trail hlast, ← hclimb, ← cons_ancestors, List.length_cons]
  rw [hlength, walk_succ_last, hlast, Option.bind_some] at h
  rw [cons_ancestors, hclimb]
  exact hend holder h

/-- An element is another one or lies, at any depth, inside it. -/
def Within (c : Containment) (x top : Ident) : Prop :=
  x = top ∨ LeadsTo c.parent? x top

/-- What lies within a held element lies inside its holder. -/
theorem Within.leadsTo {x held : Ident} (h : c.Within x held) (hparent : c.parent? held = some id) :
    LeadsTo c.parent? x id := by
  rcases h with rfl | hleads
  · exact .of_next hparent
  · exact hleads.snoc hparent

/-- Lists the awaiting elements that are not yet seen, each followed by what it holds. -/
def sweep (c : Containment) (seen : List Ident) : List Ident → List Ident
  | [] => []
  | next :: rest =>
    if _h : next ∈ seen then sweep c seen rest
    else next :: sweep c (next :: seen) (c.children next ++ rest)
termination_by awaiting => (c.placements.filter fun p => p.parent ∉ seen).length + awaiting.length
decreasing_by
  · simp
  · have hcount := length_filter_notMem_cons Placement.parent _h c.placements
    simp only [children, List.length_append, List.length_map, List.length_cons]
    omega

/-- Everything below an element, each element before what it holds and none of them twice. -/
def descendants (c : Containment) (id : Ident) : List Ident :=
  c.sweep [id] (c.children id)

section Sweep

variable {seen awaiting rest : List Ident} {next holder : Ident}

/-- Nothing awaits, so nothing is listed. -/
@[simp]
theorem sweep_nil (seen : List Ident) : c.sweep seen [] = [] := by
  rw [sweep]

/-- A sweep passes over an element that is seen. -/
theorem sweep_of_mem (h : next ∈ seen) : c.sweep seen (next :: rest) = c.sweep seen rest := by
  rw [sweep, dif_pos h]

/-- A sweep lists an element that is not seen and goes on with what it holds. -/
theorem sweep_of_notMem (h : next ∉ seen) :
    c.sweep seen (next :: rest) = next :: c.sweep (next :: seen) (c.children next ++ rest) := by
  rw [sweep, dif_neg h]

/-- A sweep lists what is not seen and lies within something awaited. -/
theorem within_of_mem_sweep (h : other ∈ c.sweep seen awaiting) :
    other ∉ seen ∧ ∃ top ∈ awaiting, c.Within other top := by
  -- by induction along the sweep: what an element holds leads to it by one step
  induction seen, awaiting using sweep.induct c with
  | case1 seen => simp at h
  | case2 seen next rest hmem ih =>
    rw [sweep_of_mem hmem] at h
    obtain ⟨hseen, top, htop, hwithin⟩ := ih h
    exact ⟨hseen, top, List.mem_cons_of_mem _ htop, hwithin⟩
  | case3 seen next rest hmem ih =>
    rw [sweep_of_notMem hmem] at h
    rcases List.mem_cons.1 h with rfl | h
    · exact ⟨hmem, other, List.mem_cons_self, Or.inl rfl⟩
    · obtain ⟨hseen, top, htop, hwithin⟩ := ih h
      refine ⟨mt (List.mem_cons_of_mem next) hseen, ?_⟩
      rcases List.mem_append.1 htop with htop | htop
      · exact ⟨next, List.mem_cons_self, Or.inr (hwithin.leadsTo (mem_children_iff.1 htop))⟩
      · exact ⟨top, List.mem_cons_of_mem _ htop, hwithin⟩

/-- A sweep lists nothing twice. -/
theorem nodup_sweep (c : Containment) (seen awaiting : List Ident) :
    (c.sweep seen awaiting).Nodup := by
  induction seen, awaiting using sweep.induct c with
  | case1 seen => simp
  | case2 seen next rest hmem ih => rwa [sweep_of_mem hmem]
  | case3 seen next rest hmem ih =>
    rw [sweep_of_notMem hmem, List.nodup_cons]
    -- what is listed later is not seen, and the element has just been seen
    exact ⟨fun hlater => (within_of_mem_sweep hlater).1 List.mem_cons_self, ih⟩

/-- A sweep lists what is awaited, unless it is seen. -/
theorem mem_sweep_of_awaiting (h : other ∈ awaiting) (hseen : other ∉ seen) :
    other ∈ c.sweep seen awaiting := by
  induction seen, awaiting using sweep.induct c with
  | case1 seen => cases h
  | case2 seen next rest hmem ih =>
    rw [sweep_of_mem hmem]
    rcases List.mem_cons.1 h with rfl | h
    · exact absurd hmem hseen
    · exact ih h hseen
  | case3 seen next rest hmem ih =>
    rw [sweep_of_notMem hmem, List.mem_cons]
    refine or_iff_not_imp_left.2 fun hne => ?_
    have hrest : other ∈ rest := (List.mem_cons.1 h).resolve_left hne
    exact ih (List.mem_append_right _ hrest) (List.not_mem_cons_of_ne_of_not_mem hne hseen)

/-- A sweep lists what is held by an element that it lists, unless it is seen. -/
theorem mem_sweep_of_parent? (h : holder ∈ c.sweep seen awaiting)
    (hparent : c.parent? other = some holder) (hseen : other ∉ seen) :
    other ∈ c.sweep seen awaiting := by
  induction seen, awaiting using sweep.induct c with
  | case1 seen => simp at h
  | case2 seen next rest hmem ih =>
    rw [sweep_of_mem hmem] at h ⊢
    exact ih h hseen
  | case3 seen next rest hmem ih =>
    rw [sweep_of_notMem hmem] at h ⊢
    refine List.mem_cons.2 (or_iff_not_imp_left.2 fun hne => ?_)
    have hseen' : other ∉ next :: seen := List.not_mem_cons_of_ne_of_not_mem hne hseen
    -- the holder is the element that has just been listed, or one that is listed later
    rcases List.mem_cons.1 h with rfl | h
    · exact mem_sweep_of_awaiting (List.mem_append_left _ (mem_children_iff.2 hparent)) hseen'
    · exact ih h hseen'

end Sweep

/-- Nothing is listed twice below an element. -/
theorem nodup_descendants (c : Containment) (id : Ident) : (c.descendants id).Nodup :=
  c.nodup_sweep [id] (c.children id)

/-- Below an element are the others whose walk of holders meets it. -/
theorem mem_descendants_iff :
    other ∈ c.descendants id ↔ other ≠ id ∧ LeadsTo c.parent? other id := by
  rw [descendants]
  constructor
  · intro h
    obtain ⟨hne, top, htop, hwithin⟩ := within_of_mem_sweep h
    exact ⟨mt List.mem_singleton.2 hne, hwithin.leadsTo (mem_children_iff.1 htop)⟩
  · rintro ⟨hne, n, hn⟩
    -- by induction on the steps: the holder is the element itself, or it is listed
    induction n generalizing other with
    | zero =>
      rw [Nat.zero_add, walk_one] at hn
      exact mem_sweep_of_awaiting (mem_children_iff.2 hn) (mt List.mem_singleton.1 hne)
    | succ n ih =>
      rw [walk_succ] at hn
      obtain ⟨holder, hparent, hn⟩ := Option.bind_eq_some_iff.1 hn
      have hseen : other ∉ [id] := mt List.mem_singleton.1 hne
      by_cases heq : holder = id
      · exact mem_sweep_of_awaiting (mem_children_iff.2 (heq ▸ hparent)) hseen
      · exact mem_sweep_of_parent? (ih heq hn) hparent hseen

end Containment

end Viewpoint
