import Mathlib.Data.List.Induction
import Mathlib.Order.Lattice
import Viewpoint.Proofs.Containment.Placing

/-!
# Placements in turns

A schedule gives each placement its turn. When placements are made in the order of their turns, an
element lies where the placement of it with the least turn says, and an element lists what it holds
in the order of these turns.

* `FirstInTurn` says that a placement of an element has the least turn of all its placements.
* `KeepsFirst` is what each placement preserves, and `exists_keepsFirst` what a whole run ends with.
* `parent?_iff_firstInTurn` and `pairwise_children_of_schedule` read the holders and the lists of
  held elements off the schedule.
-/

namespace Viewpoint

namespace Containment

variable {τ : Type} [LinearOrder τ] {schedule kept : List (τ × Placement)} {turn : τ}
  {child parent : Ident} {c : Containment}

/-- A placement is scheduled, and no other placement of its element has an earlier turn. -/
def FirstInTurn (schedule : List (τ × Placement)) (turn : τ) (placement : Placement) : Prop :=
  (turn, placement) ∈ schedule ∧
    ∀ other ∈ schedule, other.2.child = placement.child → turn ≤ other.1

/-- The placements of a containment are those of a schedule with the least turns. -/
structure KeepsFirst (c : Containment) (schedule kept : List (τ × Placement)) : Prop where
  /-- The placements that are kept, in the order in which they were made. -/
  placements_eq : c.placements = kept.map Prod.snd
  /-- The order in which they were made is that of the schedule. -/
  sublist : kept.Sublist schedule
  /-- A placement that is kept is the first of its element. -/
  first : ∀ entry ∈ kept, FirstInTurn schedule entry.1 entry.2
  /-- A placement of each scheduled element is kept. -/
  covers : ∀ other ∈ schedule, ∃ entry ∈ kept, entry.2.child = other.2.child

/-- An element of a schedule has a holder exactly when a placement of it is kept. -/
theorem KeepsFirst.parent?_eq_none_iff (h : KeepsFirst c schedule kept) :
    c.parent? child = none ↔ ∀ entry ∈ kept, entry.2.child ≠ child := by
  rw [Containment.parent?_eq_none_iff, h.placements_eq]
  simp only [List.map_map, List.mem_map, not_exists, not_and, Function.comp_apply]

/-- What is first of its element stays so when a placement with a later turn is added. -/
theorem FirstInTurn.snoc {placement : Placement} (h : FirstInTurn schedule turn placement)
    {next : τ × Placement} (hnext : turn ≤ next.1) :
    FirstInTurn (schedule ++ [next]) turn placement := by
  obtain ⟨hmem, hleast⟩ := h
  refine ⟨List.mem_append_left _ hmem, fun other hother hchild => ?_⟩
  rcases List.mem_append.1 hother with hother | hother
  · exact hleast other hother hchild
  · rw [List.mem_singleton.1 hother]
    exact hnext

/-- A placement with a later turn than all others is kept when it is the first of its element. -/
theorem KeepsFirst.put (h : KeepsFirst c schedule kept) {next : τ × Placement}
    (hlast : ∀ entry ∈ schedule, entry.1 < next.1) :
    ∃ kept', KeepsFirst (c.put next.2) (schedule ++ [next]) kept' := by
  have hfirst : ∀ entry ∈ kept, FirstInTurn (schedule ++ [next]) entry.1 entry.2 :=
    fun entry hentry => (h.first entry hentry).snoc (hlast entry (h.first entry hentry).1).le
  -- the element of the new placement lies somewhere already, or this placement is its first one
  cases hparent : c.parent? next.2.child with
  | some holder =>
    rw [put_of_some hparent]
    refine ⟨kept, h.placements_eq, h.sublist.trans (List.sublist_append_left _ _), hfirst, ?_⟩
    intro other hother
    rcases List.mem_append.1 hother with hother | hother
    · exact h.covers other hother
    · rw [List.mem_singleton.1 hother]
      have hsome : c.parent? next.2.child ≠ none := by simp [hparent]
      rw [Ne, h.parent?_eq_none_iff] at hsome
      push Not at hsome
      exact hsome
  | none =>
    have hfresh := h.parent?_eq_none_iff.1 hparent
    refine ⟨kept ++ [next], ?_, h.sublist.append (List.Sublist.refl _), ?_, ?_⟩
    · rw [placements_put_of_none hparent, h.placements_eq, List.map_append, List.map_singleton]
    · intro entry hentry
      rcases List.mem_append.1 hentry with hentry | hentry
      · exact hfirst entry hentry
      · rw [List.mem_singleton.1 hentry]
        refine ⟨by simp, fun other hother hchild => ?_⟩
        rcases List.mem_append.1 hother with hother | hother
        · -- an earlier placement of the element would have been kept
          obtain ⟨earlier, hearlier, hsame⟩ := h.covers other hother
          exact absurd (hsame.trans hchild) (hfresh earlier hearlier)
        · rw [List.mem_singleton.1 hother]
    · intro other hother
      rcases List.mem_append.1 hother with hother | hother
      · obtain ⟨entry, hentry, hchild⟩ := h.covers other hother
        exact ⟨entry, List.mem_append_left _ hentry, hchild⟩
      · exact ⟨next, by simp, by rw [List.mem_singleton.1 hother]⟩

/-- Placements made in the order of their turns are kept when they are the first of their
elements. -/
theorem exists_keepsFirst (hsorted : schedule.Pairwise fun a b => a.1 < b.1) :
    ∃ kept, KeepsFirst ((∅ : Containment).putAll (schedule.map Prod.snd)) schedule kept := by
  -- by induction on the schedule from its end: the last placement meets what the others have made
  induction schedule using List.reverseRecOn with
  | nil => exact ⟨[], rfl, List.Sublist.refl _, by simp, by simp⟩
  | append_singleton earlier next ih =>
    obtain ⟨hearlier, -, hlast⟩ := List.pairwise_append.1 hsorted
    obtain ⟨kept, hkept⟩ := ih hearlier
    rw [List.map_append, putAll_append]
    exact hkept.put fun entry hentry => hlast entry hentry next (by simp)

/-- In a schedule each turn has one placement. -/
theorem eq_of_turn_eq (hsorted : schedule.Pairwise fun a b => a.1 < b.1) {a b : τ × Placement}
    (ha : a ∈ schedule) (hb : b ∈ schedule) (hturn : a.1 = b.1) : a = b := by
  have hnodup : (schedule.map Prod.fst).Nodup :=
    List.pairwise_map.2 (hsorted.imp fun hlt => hlt.ne)
  exact List.inj_on_of_nodup_map hnodup ha hb hturn

/-- An element lies where the placement of it with the least turn says. -/
theorem parent?_iff_firstInTurn (hsorted : schedule.Pairwise fun a b => a.1 < b.1) :
    ((∅ : Containment).putAll (schedule.map Prod.snd)).parent? child = some parent ↔
      ∃ turn, FirstInTurn schedule turn ⟨child, parent⟩ := by
  obtain ⟨kept, hkept⟩ := exists_keepsFirst hsorted
  rw [← mem_placements_iff, hkept.placements_eq, List.mem_map]
  constructor
  · rintro ⟨entry, hentry, hplacement⟩
    exact ⟨entry.1, hplacement ▸ hkept.first entry hentry⟩
  · rintro ⟨turn, hmem, hleast⟩
    obtain ⟨entry, hentry, hchild⟩ := hkept.covers _ hmem
    obtain ⟨hscheduled, hfirst⟩ := hkept.first entry hentry
    -- both placements have the least turn
    have hturn : entry.1 = turn :=
      le_antisymm (hfirst _ hmem hchild.symm) (hleast entry hscheduled hchild)
    have heq : entry = (turn, ⟨child, parent⟩) := eq_of_turn_eq hsorted hscheduled hmem hturn
    exact ⟨entry, hentry, by rw [heq]⟩

/-- An element lists what it holds in the order of the turns. -/
theorem pairwise_children_of_schedule (hsorted : schedule.Pairwise fun a b => a.1 < b.1)
    (parent : Ident) :
    (((∅ : Containment).putAll (schedule.map Prod.snd)).children parent).Pairwise fun a b =>
      ∃ s t, FirstInTurn schedule s ⟨a, parent⟩ ∧ FirstInTurn schedule t ⟨b, parent⟩ ∧ s < t := by
  obtain ⟨kept, hkept⟩ := exists_keepsFirst hsorted
  rw [children, hkept.placements_eq, List.pairwise_map, List.pairwise_filter, List.pairwise_map]
  refine (hsorted.sublist hkept.sublist).imp_of_mem ?_
  intro a b ha hb hlt hparentA hparentB
  simp only [decide_eq_true_eq] at hparentA hparentB
  refine ⟨a.1, b.1, ?_, ?_, hlt⟩
  · exact hparentA ▸ hkept.first a ha
  · exact hparentB ▸ hkept.first b hb

end Containment

end Viewpoint
