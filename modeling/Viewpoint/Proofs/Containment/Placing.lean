import Mathlib.Data.List.Nodup
import Viewpoint.Containment

/-!
# Placing elements one after the other

A containment is made by placing elements, and a placement of an element that already lies somewhere
is without effect. So after any run of placements an element lies where the first placement of it
says.

* `put` makes a placement or passes over it; `parent?_put` is what one placement changes.
* `parent?_putAll` says that the first placement of an element is the one that is kept.
* `count_children` says that the lists of held elements repeat what the holders say.
-/

namespace Viewpoint

namespace Containment

variable {c : Containment} {id child parent : Ident}

/-- An element without a holder is placed. -/
theorem assign_of_none (h : c.parent? child = none) :
    ∃ placed, c.assign child parent = .ok placed ∧
      placed.placements = c.placements ++ [⟨child, parent⟩] := by
  unfold assign
  split
  · next kept hkept =>
    rw [h] at hkept
    cases hkept
  · exact ⟨_, rfl, rfl⟩

/-- An element that has a holder stays there. -/
theorem assign_of_some {kept : Ident} (h : c.parent? child = some kept) :
    c.assign child parent = if kept = parent then .ok c else .error kept := by
  unfold assign
  split
  · next kept' hkept =>
    rw [h] at hkept
    cases hkept
    rfl
  · next hnone =>
    rw [h] at hnone
    cases hnone

/-- Makes a placement, unless the element lies somewhere already. -/
def put (c : Containment) (placement : Placement) : Containment :=
  match c.assign placement.child placement.parent with
  | .ok placed => placed
  | .error _ => c

/-- Makes placements in their order. -/
def putAll (c : Containment) (placements : List Placement) : Containment :=
  placements.foldl put c

/-- One run of placements after another is the run of both. -/
theorem putAll_append (c : Containment) (first second : List Placement) :
    c.putAll (first ++ second) = (c.putAll first).putAll second :=
  List.foldl_append

/-- An element that lies somewhere is passed over. -/
theorem put_of_some {placement : Placement} {kept : Ident}
    (h : c.parent? placement.child = some kept) : c.put placement = c := by
  rw [put, assign_of_some h]
  by_cases heq : kept = placement.parent
  · rw [if_pos heq]
  · rw [if_neg heq]

/-- An element that lies nowhere is put behind the others. -/
theorem placements_put_of_none {placement : Placement} (h : c.parent? placement.child = none) :
    (c.put placement).placements = c.placements ++ [placement] := by
  obtain ⟨placed, hplaced, hlist⟩ :
      ∃ placed, c.assign placement.child placement.parent = .ok placed ∧
        placed.placements = c.placements ++ [placement] := assign_of_none h
  rw [put, hplaced, hlist]

/-- Nothing lies anywhere at first. -/
@[simp]
theorem parent?_empty : (∅ : Containment).parent? id = none := rfl

/-- One placement gives a holder to its element if there is none yet, and changes nothing else. -/
theorem parent?_put (c : Containment) (placement : Placement) (id : Ident) :
    (c.put placement).parent? id =
      (c.parent? id).or (if placement.child = id then some placement.parent else none) := by
  -- the element that is placed lies somewhere already, or it is put behind the others
  cases h : c.parent? placement.child with
  | some kept =>
    rw [put_of_some h]
    by_cases hid : placement.child = id
    · rw [← hid, h, Option.some_or]
    · rw [if_neg hid, Option.or_none]
  | none =>
    rw [parent?, placements_put_of_none h, List.find?_append, Option.map_or, ← parent?]
    congr 1
    by_cases hid : placement.child = id
    · rw [List.find?_cons_of_pos (by simpa using hid), if_pos hid, Option.map_some]
    · rw [List.find?_cons_of_neg (by simpa using hid), if_neg hid, List.find?_nil,
        Option.map_none]

/-- After a run of placements an element lies where it lay before or else where the first placement
of it says. -/
theorem parent?_putAll (c : Containment) (placements : List Placement) (id : Ident) :
    (c.putAll placements).parent? id =
      (c.parent? id).or ((placements.find? (·.child = id)).map Placement.parent) := by
  -- by induction on the run: of the first placement and the later ones the first counts
  induction placements generalizing c with
  | nil => simp [putAll]
  | cons placement rest ih =>
    have hrun : c.putAll (placement :: rest) = (c.put placement).putAll rest := rfl
    rw [hrun, ih, parent?_put, Option.or_assoc]
    congr 1
    by_cases hid : placement.child = id
    · rw [if_pos hid, Option.some_or, List.find?_cons_of_pos (by simpa using hid),
        Option.map_some]
    · rw [if_neg hid, Option.none_or, List.find?_cons_of_neg (by simpa using hid)]

/-- The placements are what the holders say. -/
theorem mem_placements_iff : ⟨child, parent⟩ ∈ c.placements ↔ c.parent? child = some parent := by
  refine ⟨fun hmem => ?_, mem_placements_of_parent?⟩
  cases h : c.parent? child with
  | none => exact absurd (List.mem_map_of_mem hmem) (parent?_eq_none_iff.1 h)
  | some kept =>
    -- two placements of one element are the same
    have heq := List.inj_on_of_nodup_map c.distinct (mem_placements_of_parent? h) hmem rfl
    cases heq
    rfl

/-- An element is held by the elements whose list it is in. -/
theorem mem_children_iff : child ∈ c.children parent ↔ c.parent? child = some parent := by
  rw [← mem_placements_iff, children, List.mem_map]
  constructor
  · rintro ⟨placement, hmem, rfl⟩
    obtain ⟨hmem, hparent⟩ := List.mem_filter.1 hmem
    simp only [decide_eq_true_eq] at hparent
    exact hparent ▸ hmem
  · intro hmem
    exact ⟨_, List.mem_filter.2 ⟨hmem, by simp⟩, rfl⟩

/-- No element is listed twice. -/
theorem nodup_children (c : Containment) (id : Ident) : (c.children id).Nodup :=
  (List.filter_sublist.map Placement.child).nodup c.distinct

/-- An element is listed once by its holder and not at all by others. -/
theorem count_children (c : Containment) (child parent : Ident) :
    (c.children parent).count child = if c.parent? child = some parent then 1 else 0 := by
  rw [(c.nodup_children parent).count]
  simp only [mem_children_iff]

end Containment

end Viewpoint
