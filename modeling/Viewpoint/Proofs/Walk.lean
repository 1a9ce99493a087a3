import Mathlib.Data.Fintype.Pigeonhole
import Mathlib.Data.List.Rotate
import Mathlib.Data.Nat.Find
import Mathlib.Data.Set.Finite.Basic
import Mathlib.Logic.Relation

/-!
# Walks of a partial function

Holders of an element and bases of a view are both found by following a partial function from step
to step. A walk either comes to an end or returns to a member that it has already met; which of the
two happens decides whether a containment is a forest and what becomes of a filtered view.

* `walk next n a` is the member that `n` steps lead to, and `trail next n a` lists the first `n`
  members.
* `walk_ne_of_end` says that a walk with an end meets nothing twice.
* `walkEnds_or_firstReturn` says that there is no third way when only finitely many members lead on.
* `ClosedPath` is a path that comes back to its start, and `leadsTo_self_iff` says that there is one
  from every member to which the walk from it returns.
-/

namespace Viewpoint

variable {α : Type} {next : α → Option α} {a b c : α}

/-- The member that `n` steps lead to, if there are that many. -/
def walk (next : α → Option α) : Nat → α → Option α
  | 0, a => some a
  | n + 1, a => (next a).bind (walk next n)

/-- The first `n` members of a walk, or all of them if there are fewer. -/
def trail (next : α → Option α) : Nat → α → List α
  | 0, _ => []
  | n + 1, a => a :: (next a).elim [] (trail next n)

/-- The walk comes to a member from which there is no further step. -/
def WalkEnds (next : α → Option α) (a : α) : Prop :=
  ∃ n b, walk next n a = some b ∧ next b = none

/-- The walk meets a member after its start, by one or more steps. -/
def LeadsTo (next : α → Option α) (a b : α) : Prop :=
  ∃ n, walk next (n + 1) a = some b

/-- The walk is at the same member after `i` and after `j` steps, and nothing before that is met
twice: the member after `i` steps is the first one to which the walk returns. -/
structure FirstReturn (next : α → Option α) (a : α) (i j : Nat) : Prop where
  /-- The return comes later. -/
  lt : i < j
  /-- The walk is back at the earlier member. -/
  back : walk next j a = walk next i a
  /-- The walk is that long. -/
  long : (walk next j a).isSome
  /-- All members before the return are different. -/
  distinct : ∀ m n, m < n → n < j → walk next m a ≠ walk next n a

/-- A path along a relation that comes back to its start and has no member twice before. -/
structure ClosedPath (rel : α → α → Prop) (start : α) (path : List α) : Prop where
  /-- The path starts and ends at the same member, and all members in between are others. -/
  closed : ∃ rest, path = start :: rest ++ [start] ∧ (start :: rest).Nodup
  /-- Each member is related to the next one. -/
  chain : path.IsChain rel

@[simp]
theorem walk_zero : walk next 0 a = some a := rfl

theorem walk_succ (n : Nat) : walk next (n + 1) a = (next a).bind (walk next n) := rfl

/-- One step is the partial function itself. -/
@[simp]
theorem walk_one : walk next 1 a = next a := by
  cases h : next a <;> simp [walk, h]

/-- A walk goes on from the member that its first steps lead to. -/
theorem walk_add (m n : Nat) : walk next (m + n) a = (walk next m a).bind (walk next n) := by
  -- by induction on the first part, for every start: the first step is common to both sides
  induction m generalizing a with
  | zero => simp
  | succ m ih =>
    rw [Nat.succ_add, walk_succ, walk_succ]
    cases next a with
    | none => rfl
    | some b => exact ih

/-- The last step of a walk. -/
theorem walk_succ_last (n : Nat) : walk next (n + 1) a = (walk next n a).bind next := by
  rw [walk_add]
  congr 1
  funext b
  exact walk_one

/-- A walk goes on from any of its members. -/
theorem walk_add_of_eq {m : Nat} (h : walk next m a = some b) (n : Nat) :
    walk next (m + n) a = walk next n b := by
  rw [walk_add, h, Option.bind_some]

/-- A long walk has a member at every earlier step. -/
theorem exists_walk_of_le {m n : Nat} (hle : m ≤ n) (h : walk next n a = some b) :
    ∃ c, walk next m a = some c := by
  obtain ⟨k, rfl⟩ := Nat.exists_eq_add_of_le hle
  rw [walk_add] at h
  cases hm : walk next m a with
  | none => simp [hm] at h
  | some c => exact ⟨c, rfl⟩

/-- Two steps at the same member lead on to the same members. -/
theorem walk_add_congr {m n : Nat} (h : walk next m a = walk next n a) (k : Nat) :
    walk next (m + k) a = walk next (n + k) a := by
  rw [walk_add, walk_add, h]

/-- There is nothing behind the end of a walk. -/
theorem walk_eq_none_of_end {m n : Nat} (h : walk next n a = some b) (hend : next b = none)
    (hlt : n < m) : walk next m a = none := by
  obtain ⟨k, rfl⟩ := Nat.exists_eq_add_of_lt hlt
  rw [Nat.add_assoc, walk_add_of_eq h, Nat.add_comm, walk_add, walk_one, hend]
  rfl

/-- A walk with an end meets nothing twice. -/
theorem walk_ne_of_end {i j n : Nat} (h : walk next n a = some b) (hend : next b = none)
    (hij : i < j) (hjn : j ≤ n) : walk next i a ≠ walk next j a := by
  intro heq
  -- one step past the end from `j` is still within the walk from `i`
  have hnone : walk next (j + (n + 1 - j)) a = none :=
    walk_eq_none_of_end h hend (by omega)
  obtain ⟨c, hc⟩ := exists_walk_of_le (m := i + (n + 1 - j)) (by omega) h
  rw [walk_add_congr heq, hnone] at hc
  cases hc

/-- A walk with an end never returns to its start. -/
theorem WalkEnds.not_leadsTo_self (h : WalkEnds next a) : ¬ LeadsTo next a a := by
  obtain ⟨m, b, hm, hb⟩ := h
  rintro ⟨n, hback⟩
  -- a return behind the end is impossible, and one before it meets the start twice
  rcases Nat.lt_or_ge m (n + 1) with hmn | hnm
  · rw [walk_eq_none_of_end hm hb hmn] at hback
    cases hback
  · exact walk_ne_of_end hm hb (Nat.succ_pos n) hnm (by rw [hback, walk_zero])

/-- The first step leads to the next member. -/
theorem LeadsTo.of_next (h : next a = some b) : LeadsTo next a b :=
  ⟨0, by rw [Nat.zero_add, walk_one, h]⟩

/-- What the walk meets after its first step it also meets from its start. -/
theorem LeadsTo.head (h : next a = some b) (hbc : LeadsTo next b c) : LeadsTo next a c := by
  obtain ⟨n, hn⟩ := hbc
  exact ⟨n + 1, by rw [walk_succ, h, Option.bind_some, hn]⟩

/-- Where its first step leads, the walk is at what it meets or goes on to meet it. -/
theorem leadsTo_iff_of_next (h : next a = some b) :
    LeadsTo next a c ↔ b = c ∨ LeadsTo next b c := by
  constructor
  · rintro ⟨n, hn⟩
    rw [walk_succ, h, Option.bind_some] at hn
    cases n with
    | zero => exact Or.inl (Option.some.inj hn)
    | succ n => exact Or.inr ⟨n, hn⟩
  · rintro (rfl | hbc)
    · exact .of_next h
    · exact .head h hbc

/-- The walk also meets what the members that it meets lead to. -/
theorem LeadsTo.snoc (hab : LeadsTo next a b) (h : next b = some c) : LeadsTo next a c := by
  obtain ⟨n, hn⟩ := hab
  exact ⟨n + 1, by rw [walk_succ_last, hn, Option.bind_some, h]⟩

/-- A walk meets what can be reached by steps. -/
theorem leadsTo_iff_transGen :
    LeadsTo next a b ↔ Relation.TransGen (fun a b => next a = some b) a b := by
  constructor
  · rintro ⟨n, hn⟩
    -- by induction on the number of steps: the last one goes on from what was reached
    induction n generalizing b with
    | zero => exact .single (by rwa [Nat.zero_add, walk_one] at hn)
    | succ n ih =>
      rw [walk_succ_last] at hn
      obtain ⟨c, hc, hcb⟩ := Option.bind_eq_some_iff.1 hn
      exact .tail (ih hc) hcb
  · intro h
    induction h with
    | single hstep => exact .of_next hstep
    | tail _ hstep ih => exact ih.snoc hstep

/-- A walk that meets anything has a first step. -/
theorem LeadsTo.exists_next (h : LeadsTo next a b) : ∃ c, next a = some c := by
  obtain ⟨n, hn⟩ := h
  obtain ⟨c, hc⟩ := exists_walk_of_le (Nat.succ_pos n) hn
  exact ⟨c, by rw [← hc, Nat.succ_eq_add_one, Nat.zero_add, walk_one]⟩

/-- Without a first step a walk meets nothing. -/
theorem not_leadsTo_of_none (h : next a = none) : ¬ LeadsTo next a b := by
  intro hleads
  obtain ⟨c, hc⟩ := hleads.exists_next
  rw [h] at hc
  cases hc

/-- What a walk meets it comes to by a last step. -/
theorem LeadsTo.exists_last (h : LeadsTo next a b) : ∃ c, next c = some b := by
  obtain ⟨n, hn⟩ := h
  rw [walk_succ_last] at hn
  obtain ⟨c, -, hc⟩ := Option.bind_eq_some_iff.1 hn
  exact ⟨c, hc⟩

/-- An end of the walk is an end of the walk from any of its members. -/
theorem WalkEnds.of_walk (h : WalkEnds next a) {m : Nat} (hm : walk next m a = some b) :
    WalkEnds next b := by
  obtain ⟨n, c, hn, hc⟩ := h
  -- the member lies before the end, as there is nothing behind it
  rcases Nat.lt_or_ge n m with hlt | hge
  · rw [walk_eq_none_of_end hn hc hlt] at hm
    cases hm
  · obtain ⟨k, rfl⟩ := Nat.exists_eq_add_of_le hge
    exact ⟨k, c, by rw [← walk_add_of_eq hm, hn], hc⟩

/-- A walk ends when it ends after its first step. -/
theorem WalkEnds.of_next (hab : next a = some b) (h : WalkEnds next b) : WalkEnds next a := by
  obtain ⟨n, c, hn, hc⟩ := h
  exact ⟨n + 1, c, by rw [walk_succ, hab, Option.bind_some, hn], hc⟩

/-- A walk that ends also ends after its first step. -/
theorem WalkEnds.tail (h : WalkEnds next a) (hab : next a = some b) : WalkEnds next b :=
  h.of_walk (by rw [walk_one, hab] : walk next 1 a = some b)

/-- A walk ends exactly when the walk from one of its members does. -/
theorem walkEnds_iff_of_walk {m : Nat} (hm : walk next m a = some b) :
    WalkEnds next a ↔ WalkEnds next b := by
  refine ⟨fun h => h.of_walk hm, ?_⟩
  rintro ⟨n, c, hn, hc⟩
  exact ⟨m + n, c, by rw [walk_add_of_eq hm, hn], hc⟩

/-- A walk without an end has a member at every step. -/
theorem exists_walk_of_not_walkEnds (h : ¬ WalkEnds next a) (n : Nat) :
    ∃ b, walk next n a = some b := by
  induction n with
  | zero => exact ⟨a, rfl⟩
  | succ n ih =>
    obtain ⟨b, hb⟩ := ih
    cases hnext : next b with
    | none => exact absurd ⟨n, b, hb, hnext⟩ h
    | some c => exact ⟨c, by rw [walk_succ_last, hb, Option.bind_some, hnext]⟩

/-- Where only finitely many members lead on, a walk ends or returns. -/
theorem walkEnds_or_firstReturn {members : List α} (hmem : ∀ b, next b ≠ none → b ∈ members) :
    WalkEnds next a ∨ ∃ i j, FirstReturn next a i j := by
  classical
  refine or_iff_not_imp_left.2 fun hends => ?_
  choose u hu using exists_walk_of_not_walkEnds hends
  have hmember : ∀ n, u n ∈ members := by
    intro n
    refine hmem _ fun hnone => ?_
    have hsucc := hu (n + 1)
    rw [walk_succ_last, hu n, Option.bind_some, hnone] at hsucc
    cases hsucc
  -- infinitely many steps, finitely many members
  have : Finite { b // b ∈ members } := members.finite_toSet.to_subtype
  obtain ⟨m, n, hne, heq⟩ :=
    Finite.exists_ne_map_eq_of_infinite fun n => (⟨u n, hmember n⟩ : { b // b ∈ members })
  have hreturns : ∃ j, ∃ i < j, u i = u j := by
    have heq : u m = u n := congrArg Subtype.val heq
    rcases Nat.lt_or_gt_of_ne hne with hlt | hgt
    · exact ⟨n, m, hlt, heq⟩
    · exact ⟨m, n, hgt, heq.symm⟩
  -- the earliest return: before it nothing is met twice
  obtain ⟨i, hi, hij⟩ := Nat.find_spec hreturns
  refine ⟨i, Nat.find hreturns, hi, ?_, ?_, ?_⟩
  · rw [hu, hu, hij]
  · rw [hu]
    rfl
  · intro p q hpq hq heq
    rw [hu, hu] at heq
    exact Nat.find_min hreturns hq ⟨p, hpq, Option.some.inj heq⟩

/-- A trail of one member. -/
@[simp]
theorem trail_one : trail next 1 a = [a] := by
  rw [trail]
  cases next a <;> rfl

/-- A trail of one more member. -/
theorem trail_succ_of_next {n : Nat} (h : next a = some b) :
    trail next (n + 1) a = a :: trail next n b := by
  simp [trail, h]

/-- The trail of a walk is a trail up to any of its members and a trail from there on. -/
theorem trail_add {m : Nat} (h : walk next m a = some b) (n : Nat) :
    trail next (m + n) a = trail next m a ++ trail next n b := by
  induction m generalizing a with
  | zero => simp_all [trail]
  | succ m ih =>
    rw [walk_succ] at h
    cases hnext : next a with
    | none => simp [hnext] at h
    | some c =>
      rw [hnext, Option.bind_some] at h
      rw [Nat.succ_add, trail_succ_of_next hnext, trail_succ_of_next hnext, ih h, List.cons_append]

/-- The trail lists the members of the walk. -/
theorem mem_trail {n : Nat} : b ∈ trail next n a ↔ ∃ k < n, walk next k a = some b := by
  induction n generalizing a with
  | zero => simp [trail]
  | succ n ih =>
    rw [trail, List.mem_cons]
    cases hnext : next a with
    | none =>
      constructor
      · rintro (rfl | hb)
        · exact ⟨0, Nat.succ_pos n, rfl⟩
        · simp at hb
      · rintro ⟨k, -, hk⟩
        cases k with
        | zero => exact Or.inl (Option.some.inj hk).symm
        | succ k => simp [walk_succ, hnext] at hk
    | some c =>
      rw [Option.elim_some, ih]
      constructor
      · rintro (rfl | ⟨k, hkn, hk⟩)
        · exact ⟨0, Nat.succ_pos n, rfl⟩
        · exact ⟨k + 1, Nat.succ_lt_succ hkn, by rw [walk_succ, hnext, Option.bind_some, hk]⟩
      · rintro ⟨k, hkn, hk⟩
        cases k with
        -- step 0 is the start, and the other steps are those of the next member
        | zero => exact Or.inl (Option.some.inj hk).symm
        | succ k =>
          rw [walk_succ, hnext, Option.bind_some] at hk
          exact Or.inr ⟨k, Nat.lt_of_succ_lt_succ hkn, hk⟩

/-- The trail lists the members in the order of the steps. -/
theorem getElem?_trail {n k : Nat} :
    (trail next n a)[k]? = if k < n then walk next k a else none := by
  induction n generalizing a k with
  | zero => simp [trail]
  | succ n ih =>
    cases k with
    | zero => simp [trail]
    | succ k => cases hnext : next a <;> simp [trail, walk_succ, hnext, ih]

/-- A trail to a member has as many members as there are steps, and its start. -/
theorem length_trail {n : Nat} (h : walk next n a = some b) :
    (trail next (n + 1) a).length = n + 1 := by
  induction n generalizing a with
  | zero => simp
  | succ n ih =>
    rw [walk_succ] at h
    obtain ⟨c, hc, hcb⟩ := Option.bind_eq_some_iff.1 h
    rw [trail_succ_of_next hc, List.length_cons, ih hcb]

/-- The members of a trail follow each other by steps. -/
theorem isChain_trail (n : Nat) (a : α) :
    (trail next n a).IsChain fun b c => next b = some c := by
  induction n generalizing a with
  | zero => exact .nil
  | succ n ih =>
    rw [trail]
    cases hnext : next a with
    | none => exact .singleton a
    | some b =>
      refine List.isChain_cons.2 ⟨fun c hc => ?_, ih b⟩
      -- the first member of the rest, if there is one, is where the first step leads
      cases n with
      | zero => simp [trail] at hc
      | succ n =>
        rw [Option.elim_some, trail, List.head?_cons, Option.mem_some_iff] at hc
        rw [hnext, hc]

/-- Members that follow each other by steps are a walk. -/
theorem walk_of_isChain {members : List α}
    (h : (a :: members ++ [b]).IsChain fun b c => next b = some c) :
    walk next (members.length + 1) a = some b := by
  induction members generalizing a with
  | nil =>
    rw [List.length_nil, Nat.zero_add, walk_one]
    exact (List.isChain_cons_cons.1 h).1
  | cons c members ih =>
    obtain ⟨hstep, hrest⟩ := List.isChain_cons_cons.1 h
    rw [List.length_cons, walk_succ, hstep, Option.bind_some, ih hrest]

/-- Behind its start the trail lists what the walk meets by one or more steps. -/
theorem mem_tail_trail {n : Nat} :
    b ∈ (trail next (n + 1) a).tail ↔ ∃ k < n, walk next (k + 1) a = some b := by
  simp only [trail, List.tail_cons, walk_succ]
  cases next a with
  | none => simp
  | some c => simpa using mem_trail

namespace FirstReturn

variable {i j : Nat}

/-- From the member to which it returns, the walk goes round. -/
theorem round (h : FirstReturn next a i j) (hb : walk next i a = some b) :
    walk next (j - i) b = some b := by
  rw [← walk_add_of_eq hb, Nat.add_sub_cancel' h.lt.le, h.back, hb]

/-- A walk that returns has no end. -/
theorem not_walkEnds (h : FirstReturn next a i j) : ¬ WalkEnds next a := by
  intro hends
  obtain ⟨b, hb⟩ := Option.isSome_iff_exists.1 h.long
  obtain ⟨c, hc⟩ := exists_walk_of_le h.lt.le hb
  obtain ⟨n, hn⟩ : ∃ n, j - i = n + 1 :=
    Nat.exists_eq_succ_of_ne_zero (Nat.sub_ne_zero_of_lt h.lt)
  exact (hends.of_walk hc).not_leadsTo_self ⟨n, hn ▸ h.round hc⟩

/-- A walk that returns meets nothing new behind the return. -/
theorem leadsTo_iff (h : FirstReturn next a i j) :
    LeadsTo next a b ↔ ∃ k < j, walk next (k + 1) a = some b := by
  refine ⟨?_, fun ⟨k, _, hk⟩ => ⟨k, hk⟩⟩
  rintro ⟨n, hn⟩
  -- by strong induction on the number of steps: behind the return the walk repeats itself
  induction n using Nat.strongRecOn with
  | ind n ih =>
    rcases Nat.lt_or_ge n j with hlt | hge
    · exact ⟨n, hlt, hn⟩
    · have hlt := h.lt
      have hback : walk next (i + (n - j) + 1) a = some b := by
        rw [Nat.add_assoc, walk_add_congr h.back.symm, ← Nat.add_assoc, Nat.add_sub_cancel' hge, hn]
      exact ih _ (by omega) hback

/-- The walk from a member that it passes before its return returns to the same member. -/
theorem of_walk {k : Nat} (h : FirstReturn next a i j) (hk : k ≤ i) (hb : walk next k a = some b) :
    FirstReturn next b (i - k) (j - k) := by
  have hlt := h.lt
  have hfrom : ∀ m, walk next m b = walk next (k + m) a := fun m => (walk_add_of_eq hb m).symm
  have hi : k + (i - k) = i := Nat.add_sub_cancel' hk
  have hj : k + (j - k) = j := Nat.add_sub_cancel' (hk.trans hlt.le)
  refine ⟨by omega, ?_, ?_, fun m n hmn hn => ?_⟩
  · rw [hfrom, hfrom, hi, hj, h.back]
  · rw [hfrom, hj]
    exact h.long
  · rw [hfrom, hfrom]
    exact h.distinct _ _ (by omega) (by omega)

/-- The member to which a walk returns is the first one to which the walk from there returns. -/
theorem circle (h : FirstReturn next a i j) (hb : walk next i a = some b) :
    FirstReturn next b 0 (j - i) := by
  simpa using h.of_walk le_rfl hb

/-- What the walk passes before its return, from the member to which it returns on, is the closed
path from this member to itself. -/
theorem dropWhile_trail [DecidableEq α] (h : FirstReturn next a i j)
    (hb : walk next i a = some b) :
    (trail next j a).dropWhile (· ≠ b) ++ [b] = trail next (j - i + 1) b := by
  have hsplit : trail next j a = trail next i a ++ trail next (j - i) b := by
    rw [← trail_add hb, Nat.add_sub_cancel' h.lt.le]
  -- the member returned to is not met before, so dropping stops exactly there
  have hbefore : ∀ c ∈ trail next i a, decide (c ≠ b) = true := by
    intro c hc
    obtain ⟨k, hk, hkc⟩ := mem_trail.1 hc
    have hne := h.distinct k i hk h.lt
    rw [hkc, hb] at hne
    simpa using hne
  obtain ⟨n, hn⟩ : ∃ n, j - i = n + 1 :=
    Nat.exists_eq_succ_of_ne_zero (Nat.sub_ne_zero_of_lt h.lt)
  rw [hsplit, List.dropWhile_append_of_pos hbefore, trail_add (h.round hb), trail_one, hn, trail,
    List.dropWhile_cons_of_neg (by simp)]

/-- No member that is passed before the one to which the walk returns is returned to. -/
theorem not_leadsTo_self {k : Nat} (h : FirstReturn next a i j) (hk : k < i)
    (hb : walk next k a = some b) : ¬ LeadsTo next b b := by
  have hfrom := h.of_walk hk.le hb
  intro hleads
  obtain ⟨n, hn, hmeets⟩ := hfrom.leadsTo_iff.1 hleads
  -- the walk is back at its start only when it returns, and then it is at another member, too
  rcases Nat.lt_or_ge (n + 1) (j - k) with hlt | hge
  · exact hfrom.distinct 0 (n + 1) n.succ_pos hlt hmeets.symm
  · obtain hlast : n + 1 = j - k := by omega
    rw [hlast, hfrom.back] at hmeets
    exact hfrom.distinct 0 (i - k) (Nat.sub_pos_of_lt hk) hfrom.lt hmeets.symm

/-- The members of a circle, closed by the first of them, are a closed path. -/
theorem closedPath {n : Nat} (h : FirstReturn next b 0 n) :
    ClosedPath (fun a c => next a = some c) b (trail next (n + 1) b) := by
  obtain ⟨m, rfl⟩ : ∃ m, n = m + 1 := Nat.exists_eq_succ_of_ne_zero (Nat.ne_zero_of_lt h.lt)
  have hback : walk next (m + 1) b = some b := h.back
  refine ⟨⟨(trail next (m + 1) b).tail, ?_, ?_⟩, isChain_trail _ b⟩
  · rw [trail_add hback, trail_one, trail, List.tail_cons]
  · have hcons : b :: (trail next (m + 1) b).tail = trail next (m + 1) b := by
      rw [trail, List.tail_cons]
    rw [hcons, List.nodup_iff_getElem?_ne_getElem?]
    intro p q hpq hq
    have hlast : q < m + 1 := by
      obtain ⟨c, hc⟩ := exists_walk_of_le m.le_succ hback
      rwa [length_trail hc] at hq
    rw [getElem?_trail, getElem?_trail, if_pos (hpq.trans hlast), if_pos hlast]
    exact h.distinct p q hpq hlast

end FirstReturn

/-- The walk from a member returns to it exactly when the member is on a closed path. -/
theorem leadsTo_self_iff :
    LeadsTo next a a ↔ ∃ path, ClosedPath (fun b c => next b = some c) a path := by
  classical
  constructor
  · intro hleads
    -- the first return to the start: before it nothing is met twice
    have hspec : walk next (Nat.find hleads + 1) a = some a := Nat.find_spec hleads
    have hfirst : FirstReturn next a 0 (Nat.find hleads + 1) := by
      refine ⟨Nat.succ_pos _, hspec, by rw [hspec]; rfl, fun m n hmn hn heq => ?_⟩
      have hearly : walk next (m + (Nat.find hleads + 1 - n)) a = some a := by
        rw [walk_add_congr heq, Nat.add_sub_cancel' hn.le, hspec]
      obtain ⟨k, hk⟩ : ∃ k, m + (Nat.find hleads + 1 - n) = k + 1 :=
        Nat.exists_eq_succ_of_ne_zero (by omega)
      exact Nat.find_min hleads (by omega : k < Nat.find hleads) (hk ▸ hearly)
    exact ⟨_, hfirst.closedPath⟩
  · rintro ⟨path, ⟨rest, rfl, -⟩, hchain⟩
    exact ⟨rest.length, walk_of_isChain hchain⟩

end Viewpoint
