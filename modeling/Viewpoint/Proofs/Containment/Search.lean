import Viewpoint.Containment
import Viewpoint.Proofs.Walk

/-!
# Looking for a circle

A search follows the holders of one root after the other and keeps its marks. While it follows the
walk from a root, the marks on the path are those of the walk so far, and the walk from everything
that is done has an end. So to come to an element on the path is to return, and to come to one that
is done is to come to an end: what was followed for one root never hides a circle from another one.

* `Settled` is what the marks say between two roots and `Following` what they say on the way.
* `Following.step` is what going on to a holder preserves; `Following.follow_cases` says how
  following the walk of a root ends and `Settled.search_cases` how the whole search does.
* `walkEnds_of_findCycle` and `exists_leadsTo_of_findCycle` say what follows for the holders.
-/

namespace Viewpoint

namespace Containment

variable {c : Containment} {marks : Marks} {path roots : List Ident} {root id holder : Ident}
  {n : Nat}

/-- A path from one of its members on is closed by it, whatever the fallback is. -/
theorem closedFrom_of_mem (fallback : Nat) (h : id ∈ path) :
    closedFrom fallback path id = path.dropWhile (· ≠ id) ++ [id] := by
  have hdrop : path.drop ((path.idxOf? id).getD fallback) = path.dropWhile (· ≠ id) := by
    induction path with
    | nil => cases h
    | cons first rest ih =>
      rw [List.idxOf?_cons]
      by_cases heq : first = id
      · simp [heq]
      · have hrest : id ∈ rest := (List.mem_cons.1 h).resolve_left (Ne.symm heq)
        obtain ⟨place, hplace⟩ : ∃ place, rest.idxOf? id = some place := by
          rw [← Option.isSome_iff_exists, List.isSome_idxOf?]
          exact hrest
        have ih := ih hrest
        rw [hplace, Option.getD_some] at ih
        simp [heq, hplace, ih]
  rw [closedFrom, hdrop]

/-- All of a path is done when it is finished, and the other marks stay. -/
theorem lookup_finish (marks : Marks) (path : List Ident) (other : Ident) :
    (marks.finish path).lookup other = if other ∈ path then some .done else marks.lookup other := by
  induction path with
  | nil => rfl
  | cons first rest ih =>
    rw [Marks.finish, List.map_cons, List.cons_append, List.lookup_cons, ← Marks.finish, ih]
    by_cases heq : other = first
    · simp [heq]
    · simp [heq, beq_false_of_ne heq]

/-- Following ends at an element that is done. -/
theorem follow_of_done (fallback : Nat) (h : marks.lookup id = some .done) :
    c.follow fallback marks path id = .ok (marks.finish path) := by
  rw [follow]
  split
  · rfl
  · next hmark =>
    rw [h] at hmark
    cases hmark
  · next hmark =>
    rw [h] at hmark
    cases hmark

/-- Following is refused at an element that is on the path. -/
theorem follow_of_onPath (fallback : Nat) (h : marks.lookup id = some .onPath) :
    c.follow fallback marks path id = .error (closedFrom fallback path id) := by
  rw [follow]
  split
  · next hmark =>
    rw [h] at hmark
    cases hmark
  · rfl
  · next hmark =>
    rw [h] at hmark
    cases hmark

/-- Following goes on from an element without a mark, if it has a holder. -/
theorem follow_of_none (fallback : Nat) (h : marks.lookup id = none) :
    c.follow fallback marks path id =
      (c.parent? id).elim (.ok (Marks.finish ((id, .onPath) :: marks) (path ++ [id])))
        (c.follow fallback ((id, .onPath) :: marks) (path ++ [id])) := by
  rw [follow]
  split
  · next hmark =>
    rw [h] at hmark
    cases hmark
  · next hmark =>
    rw [h] at hmark
    cases hmark
  · split <;> next hparent => rw [hparent]; rfl

/-- Between two roots everything that is marked is done, and the walk from it has an end. -/
def Settled (c : Containment) (marks : Marks) : Prop :=
  ∀ id mark, marks.lookup id = some mark → mark = .done ∧ WalkEnds c.parent? id

/-- The search has followed the walk from a root for a number of steps to an element. -/
structure Following (c : Containment) (marks : Marks) (root : Ident) (n : Nat) (id : Ident) :
    Prop where
  /-- The steps lead to the element. -/
  walk_eq : walk c.parent? n root = some id
  /-- Nothing has been met twice before. -/
  distinct : ∀ p q, p < q → q < n → walk c.parent? p root ≠ walk c.parent? q root
  /-- What is marked as on the path is what has been met before. -/
  onPath_iff : ∀ other, marks.lookup other = some .onPath ↔ other ∈ trail c.parent? n root
  /-- The walk from everything that is done has an end. -/
  done_ends : ∀ other, marks.lookup other = some .done → WalkEnds c.parent? other

/-- A root is met before any step is made. -/
theorem Settled.following (h : Settled c marks) (root : Ident) : Following c marks root 0 root where
  walk_eq := walk_zero
  distinct p q _ hq := absurd hq (Nat.not_lt_zero q)
  onPath_iff other := by
    refine iff_of_false (fun honPath => ?_) List.not_mem_nil
    cases (h other _ honPath).1
  done_ends other hdone := (h other _ hdone).2

/-- When all of the path is done and the walk from it has an end, the marks are settled. -/
theorem settled_finish (honPath : ∀ other, marks.lookup other = some .onPath → other ∈ path)
    (hdone : ∀ other, marks.lookup other = some .done → WalkEnds c.parent? other)
    (hpath : ∀ other ∈ path, WalkEnds c.parent? other) : Settled c (marks.finish path) := by
  intro other mark hmark
  rw [lookup_finish] at hmark
  by_cases hmem : other ∈ path
  · rw [if_pos hmem] at hmark
    exact ⟨(Option.some.inj hmark).symm, hpath other hmem⟩
  · rw [if_neg hmem] at hmark
    cases mark with
    | onPath => exact absurd (honPath other hmark) hmem
    | done => exact ⟨rfl, hdone other hmark⟩

namespace Following

variable (h : Following c marks root n id)

include h

/-- The path with the element that the search has come to is the trail of one more step. -/
theorem trail_succ : trail c.parent? (n + 1) root = trail c.parent? n root ++ [id] := by
  rw [trail_add h.walk_eq, trail_one]

/-- One more element is marked as on the path. -/
theorem onPath_iff_succ (other : Ident) :
    List.lookup other ((id, .onPath) :: marks) = some .onPath ↔
      other ∈ trail c.parent? (n + 1) root := by
  rw [h.trail_succ, List.mem_append, List.mem_singleton, ← h.onPath_iff, List.lookup_cons]
  by_cases heq : other = id
  · simp [heq]
  · simp [heq, beq_false_of_ne heq]

/-- The mark of the element makes no other element done. -/
theorem done_ends_succ (other : Ident)
    (hdone : List.lookup other ((id, .onPath) :: marks) = some .done) :
    WalkEnds c.parent? other := by
  rw [List.lookup_cons] at hdone
  split at hdone
  · cases hdone
  · exact h.done_ends other hdone

/-- The search goes on to the holder of an element without a mark. -/
theorem step (hmark : marks.lookup id = none) (hparent : c.parent? id = some holder) :
    Following c ((id, .onPath) :: marks) root (n + 1) holder where
  walk_eq := by rw [walk_succ_last, h.walk_eq, Option.bind_some, hparent]
  distinct p q hpq hq := by
    rcases Nat.lt_succ_iff_lt_or_eq.1 hq with hq | rfl
    · exact h.distinct p q hpq hq
    · -- the element has no mark, so it is not one of those on the path
      intro heq
      rw [h.walk_eq] at heq
      have honPath := (h.onPath_iff id).2 (mem_trail.2 ⟨p, hpq, heq⟩)
      rw [hmark] at honPath
      cases honPath
  onPath_iff := h.onPath_iff_succ
  done_ends := h.done_ends_succ

/-- To come to an element on the path is to return to it. -/
theorem exists_firstReturn (hmark : marks.lookup id = some .onPath) :
    ∃ i, FirstReturn c.parent? root i n ∧ walk c.parent? i root = some id := by
  obtain ⟨i, hi, hmet⟩ := mem_trail.1 ((h.onPath_iff id).1 hmark)
  refine ⟨i, ⟨hi, h.walk_eq.trans hmet.symm, ?_, h.distinct⟩, hmet⟩
  rw [h.walk_eq]
  rfl

/-- The walk from every member of the path has an end when the walk from the element has one. -/
theorem walkEnds_of_mem (hends : WalkEnds c.parent? id) (other : Ident)
    (hother : other ∈ trail c.parent? n root) : WalkEnds c.parent? other := by
  obtain ⟨k, -, hk⟩ := mem_trail.1 hother
  exact ((walkEnds_iff_of_walk h.walk_eq).2 hends).of_walk hk

end Following

/-- Following the walk from a root is refused with the circle that the walk returns to, whatever
the fallback is, or the walk has an end and the marks are settled again. -/
theorem Following.follow_cases (h : Following c marks root n id) :
    (∃ i j entry, FirstReturn c.parent? root i j ∧ walk c.parent? i root = some entry ∧
      ∀ fallback, c.follow fallback marks (trail c.parent? n root) id =
        .error (trail c.parent? (j - i + 1) entry)) ∨
    (WalkEnds c.parent? root ∧ ∃ marks', Settled c marks' ∧
      ∀ fallback, c.follow fallback marks (trail c.parent? n root) id = .ok marks') := by
  -- by induction along the way: the element is done, on the path or without a mark, and in the last
  -- case it has no holder or the search goes on
  generalize hpath : trail c.parent? n root = path
  induction marks, path, id using follow.induct c generalizing n with
  | case1 marks path id hmark =>
    subst hpath
    have hends := h.done_ends id hmark
    refine Or.inr ⟨(walkEnds_iff_of_walk h.walk_eq).2 hends, _, ?_, fun fallback =>
      follow_of_done fallback hmark⟩
    exact settled_finish (fun other => (h.onPath_iff other).1) h.done_ends
      (h.walkEnds_of_mem hends)
  | case2 marks path id hmark =>
    subst hpath
    obtain ⟨i, hreturn, hmet⟩ := h.exists_firstReturn hmark
    refine Or.inl ⟨i, n, id, hreturn, hmet, fun fallback => ?_⟩
    rw [follow_of_onPath fallback hmark, closedFrom_of_mem fallback ((h.onPath_iff id).1 hmark),
      hreturn.dropWhile_trail hmet]
  | case3 marks path id hmark hparent =>
    subst hpath
    have hends : WalkEnds c.parent? id := ⟨0, id, walk_zero, hparent⟩
    refine Or.inr ⟨(walkEnds_iff_of_walk h.walk_eq).2 hends, _, ?_, fun fallback => by
      rw [follow_of_none fallback hmark, hparent, Option.elim_none]⟩
    rw [← h.trail_succ]
    refine settled_finish (fun other => (h.onPath_iff_succ other).1) h.done_ends_succ ?_
    intro other hother
    rw [h.trail_succ, List.mem_append, List.mem_singleton] at hother
    rcases hother with hother | rfl
    · exact h.walkEnds_of_mem hends other hother
    · exact hends
  | case4 marks path id hmark holder hparent ih =>
    subst hpath
    have hnext : ∀ fallback, c.follow fallback marks (trail c.parent? n root) id =
        c.follow fallback ((id, .onPath) :: marks) (trail c.parent? n root ++ [id]) holder := by
      intro fallback
      rw [follow_of_none fallback hmark, hparent, Option.elim_some]
    simp only [hnext]
    exact ih (h.step hmark hparent) h.trail_succ

/-- A search finds nothing, and the walks from all roots have ends; or it finds the circle of the
first root from which the walk returns, whatever the fallback is. -/
theorem Settled.search_cases (h : Settled c marks) (roots : List Ident) :
    ((∀ root ∈ roots, WalkEnds c.parent? root) ∧
      ∀ fallback, c.search fallback marks roots = none) ∨
    ∃ earlier root later i j entry, roots = earlier ++ root :: later ∧
      (∀ other ∈ earlier, WalkEnds c.parent? other) ∧ FirstReturn c.parent? root i j ∧
      walk c.parent? i root = some entry ∧
      ∀ fallback, c.search fallback marks roots = some (trail c.parent? (j - i + 1) entry) := by
  -- by induction on the roots, from any marks that are settled
  induction roots generalizing marks with
  | nil => exact Or.inl ⟨fun root hroot => absurd hroot List.not_mem_nil, fun _ => rfl⟩
  | cons root rest ih =>
    have hcases := (h.following root).follow_cases
    rw [trail] at hcases
    rcases hcases with ⟨i, j, entry, hreturn, hentry, hfollow⟩ | ⟨hends, marks', hsettled, hfollow⟩
    · refine Or.inr ⟨[], root, rest, i, j, entry, rfl, by simp, hreturn, hentry, fun fallback => ?_⟩
      rw [search, hfollow]
    · have hsearch : ∀ fallback, c.search fallback marks (root :: rest) =
          c.search fallback marks' rest := by
        intro fallback
        rw [search, hfollow]
      simp only [hsearch]
      rcases ih hsettled with ⟨hall, hnone⟩ | ⟨earlier, other, later, i, j, entry, hrest, hearlier,
        hreturn, hentry, hfound⟩
      · exact Or.inl ⟨List.forall_mem_cons.2 ⟨hends, hall⟩, hnone⟩
      · exact Or.inr ⟨root :: earlier, other, later, i, j, entry, by rw [hrest, List.cons_append],
          List.forall_mem_cons.2 ⟨hends, hearlier⟩, hreturn, hentry, hfound⟩

/-- Nothing is marked at first. -/
theorem settled_nil (c : Containment) : Settled c [] := by
  intro id mark hmark
  cases hmark

/-- Where no circle is found, the walk from each of the elements ends. -/
theorem walkEnds_of_findCycle (h : c.findCycle roots = none) (hroot : root ∈ roots) :
    WalkEnds c.parent? root := by
  rcases c.settled_nil.search_cases roots with
    ⟨hall, -⟩ | ⟨earlier, other, later, i, j, entry, -, -, -, -, hfound⟩
  · exact hall root hroot
  · rw [findCycle, hfound] at h
    cases h

/-- Where a circle is found, it is a closed path of holders. -/
theorem closedPath_of_findCycle (h : c.findCycle roots = some path) :
    ∃ start, ClosedPath (fun child parent => c.parent? child = some parent) start path := by
  rcases c.settled_nil.search_cases roots with
    ⟨-, hnone⟩ | ⟨earlier, root, later, i, j, entry, -, -, hreturn, hentry, hfound⟩
  · rw [findCycle, hnone] at h
    cases h
  · rw [findCycle, hfound] at h
    cases h
    exact ⟨entry, (hreturn.circle hentry).closedPath⟩

/-- Where a circle is found, some element leads back to itself. -/
theorem exists_leadsTo_of_findCycle (h : c.findCycle roots = some path) :
    ∃ id, LeadsTo c.parent? id id := by
  obtain ⟨start, hpath⟩ := closedPath_of_findCycle h
  exact ⟨start, leadsTo_self_iff.2 ⟨path, hpath⟩⟩

end Containment

end Viewpoint
