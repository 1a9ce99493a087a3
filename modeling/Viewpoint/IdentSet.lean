import Viewpoint.Ident

/-!
# Ordered sets of identifiers

Selections are collected in sets that remember the order in which their members were added.

* `IdentSet.mem_addAll` says which members are there after adding, and `IdentSet.prefix_addAll` that
  the ones before stay in their places.
-/

namespace Viewpoint

/-- Identifiers without repetition, in the order in which they were added. -/
structure IdentSet where
  /-- The members, in order. -/
  toList : List Ident
  /-- No member is listed twice. -/
  nodup : toList.Nodup
  deriving DecidableEq

namespace IdentSet

/-- The set without members. -/
def empty : IdentSet := ⟨[], List.nodup_nil⟩

instance : EmptyCollection IdentSet := ⟨empty⟩

instance : Inhabited IdentSet := ⟨empty⟩

/-- Whether an identifier is a member. -/
def contains (set : IdentSet) (id : Ident) : Bool :=
  set.toList.contains id

/-- Adds an identifier at the end, unless it is a member already. -/
def add (set : IdentSet) (id : Ident) : IdentSet :=
  if h : id ∈ set.toList then set
  else
    { toList := set.toList ++ [id]
      nodup := List.nodup_append.2 ⟨set.nodup, by simp, by
        intro a ha b hb hab
        simp only [List.mem_singleton] at hb
        exact h (hb ▸ hab ▸ ha)⟩ }

/-- Adds identifiers in their order. -/
def addAll (set : IdentSet) (ids : List Ident) : IdentSet :=
  ids.foldl add set

/-- The set of the identifiers of a list, each at its first place. -/
def ofList (ids : List Ident) : IdentSet :=
  empty.addAll ids

theorem contains_iff {set : IdentSet} {id : Ident} : set.contains id = true ↔ id ∈ set.toList :=
  List.contains_iff_mem

/-- Adding an identifier makes it a member and changes nothing else. -/
@[simp]
theorem mem_add {set : IdentSet} {id other : Ident} :
    other ∈ (set.add id).toList ↔ other ∈ set.toList ∨ other = id := by
  unfold add
  split
  · next h =>
    constructor
    · exact Or.inl
    · rintro (h' | rfl)
      · exact h'
      · exact h
  · simp

/-- Adding identifiers makes them members and changes nothing else. -/
@[simp]
theorem mem_addAll {set : IdentSet} {ids : List Ident} {other : Ident} :
    other ∈ (set.addAll ids).toList ↔ other ∈ set.toList ∨ other ∈ ids := by
  unfold addAll
  induction ids generalizing set with
  | nil => simp
  | cons id ids ih => simp [ih, or_assoc]

/-- Adding an identifier leaves the members in their places. -/
theorem prefix_add (set : IdentSet) (id : Ident) : set.toList <+: (set.add id).toList := by
  unfold add
  split
  · exact List.prefix_rfl
  · exact List.prefix_append _ _

/-- Adding identifiers leaves the members in their places. -/
theorem prefix_addAll (set : IdentSet) (ids : List Ident) :
    set.toList <+: (set.addAll ids).toList := by
  induction ids generalizing set with
  | nil => exact List.prefix_rfl
  | cons id rest ih => exact (set.prefix_add id).trans (ih (set.add id))

end IdentSet

end Viewpoint
