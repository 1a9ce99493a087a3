import Viewpoint.FilterCount
import Viewpoint.Ident

/-!
# Containment

Elements lie inside one another. A containment records for each placed element the one element that
directly holds it; the first placement of an element is the one that counts.

* `Containment.assign` places an element, `Containment.parent?` and `Containment.children` read the
  placements back.
* `Containment.findCycle` follows the holders of many elements and looks for a place where they run
  in a circle; what has been followed once is not followed again.
* `Containment.ancestorsWithin`, `Containment.isAncestorWithin` and `Containment.descendantsWithin`
  look above and below an element. They end in every containment, as nothing is listed twice, and
  they also stop at a bound.
-/

namespace Viewpoint

/-- One element directly inside another. -/
structure Placement where
  /-- The element that is held. -/
  child : Ident
  /-- The element that holds it. -/
  parent : Ident
  deriving DecidableEq

/-- Placements in the order in which they were made, one for each placed element. -/
structure Containment where
  /-- The placements. -/
  placements : List Placement
  /-- No element is placed twice. -/
  distinct : (placements.map Placement.child).Nodup
  deriving DecidableEq

namespace Containment

/-- Nothing is placed. -/
def empty : Containment := ⟨[], List.nodup_nil⟩

instance : EmptyCollection Containment := ⟨empty⟩

instance : Inhabited Containment := ⟨empty⟩

/-- The element that directly holds another. -/
def parent? (c : Containment) (id : Ident) : Option Ident :=
  (c.placements.find? (·.child = id)).map Placement.parent

/-- The elements directly inside an element, in the order in which they were placed. -/
def children (c : Containment) (id : Ident) : List Ident :=
  (c.placements.filter (·.parent = id)).map Placement.child

/-- An element without a holder has no placement. -/
theorem parent?_eq_none_iff {c : Containment} {id : Ident} :
    c.parent? id = none ↔ id ∉ c.placements.map Placement.child := by
  simp [parent?]

/-- The holder of an element is the one that it was placed in. -/
theorem mem_placements_of_parent? {c : Containment} {child parent : Ident}
    (h : c.parent? child = some parent) : ⟨child, parent⟩ ∈ c.placements := by
  obtain ⟨⟨child', parent'⟩, hfind, rfl⟩ := Option.map_eq_some_iff.1 h
  have hchild : child' = child := by simpa using List.find?_some hfind
  exact hchild ▸ List.mem_of_find?_eq_some hfind

/-- Places an element that has no holder yet. An element that already has this holder stays as it
is; one that has another keeps it, and that other holder is returned as the refusal. -/
def assign (c : Containment) (child parent : Ident) : Except Ident Containment :=
  match h : c.parent? child with
  | some kept => if kept = parent then .ok c else .error kept
  | none => .ok
    { placements := c.placements ++ [⟨child, parent⟩]
      distinct := by
        rw [parent?_eq_none_iff] at h
        simp only [List.map_append, List.map_cons, List.map_nil]
        exact List.nodup_append.2 ⟨c.distinct, by simp, by
          intro a ha b hb hab
          simp only [List.mem_singleton] at hb
          exact h (hb ▸ hab ▸ ha)⟩ }

/-- What a search for a circle knows of an element that it has met. -/
inductive Mark where
  /-- The element is on the way that is being followed. -/
  | onPath
  /-- The way from the element has been followed to an end. -/
  | done
  deriving DecidableEq

/-- The marks of a search, the latest first; of several marks of an element the latest counts. -/
abbrev Marks := List (Ident × Mark)

/-- Marks the members of a path as done. -/
def Marks.finish (marks : Marks) (path : List Ident) : Marks :=
  path.map (fun id => (id, .done)) ++ marks

/-- A path from one of its members on, closed by this member. For a member that the path does not
have the position `fallback` is taken. -/
def closedFrom (fallback : Nat) (path : List Ident) (id : Ident) : List Ident :=
  path.drop ((path.idxOf? id).getD fallback) ++ [id]

/-- Follows the holders from an element on and marks what it meets. The way has come to an end at an
element without a holder or at one that is done, and then all of it is done. Where it comes to an
element that is on the path it is refused with the closed path. -/
def follow (c : Containment) (fallback : Nat) (marks : Marks) (path : List Ident) (id : Ident) :
    Except (List Ident) Marks :=
  match _hmark : marks.lookup id with
  | some .done => .ok (marks.finish path)
  | some .onPath => .error (closedFrom fallback path id)
  | none =>
    match _hparent : c.parent? id with
    | none => .ok (Marks.finish ((id, .onPath) :: marks) (path ++ [id]))
    | some parent => c.follow fallback ((id, .onPath) :: marks) (path ++ [id]) parent
termination_by (c.placements.filter fun p => (marks.lookup p.child).isNone).length
decreasing_by
  refine length_filter_lt (x := ⟨id, parent⟩) ?_ (mem_placements_of_parent? _hparent) ?_ ?_
  · intro p hp
    rw [List.lookup_cons] at hp
    split at hp
    · cases hp
    · exact hp
  · simp [_hmark]
  · simp

/-- Follows the holders from one root after the other, all with the marks made so far. -/
def search (c : Containment) (fallback : Nat) (marks : Marks) : List Ident → Option (List Ident)
  | [] => none
  | root :: rest =>
    match c.follow fallback marks [] root with
    | .error path => some path
    | .ok marks => c.search fallback marks rest

/-- The closed path that the holders of some elements run into, for the first of these elements
from which they do. -/
def findCycle (c : Containment) (ids : List Ident) : Option (List Ident) :=
  c.search 0 [] ids

/-- Goes on from the last holder that is listed, to at most `bound` more of them. -/
def holdersFrom (c : Containment) (id : Ident) (listed : List Ident) (last : Ident) :
    Nat → List Ident
  | 0 => listed
  | bound + 1 =>
    match c.parent? last with
    | none => listed
    | some holder =>
      if holder ∈ listed ∨ holder = id then listed
      else c.holdersFrom id (listed ++ [holder]) holder bound

/-- The holders above an element, the nearest first and at most `bound` of them, up to where there
is none or one is met again. -/
def ancestorsWithin (c : Containment) (bound : Nat) (id : Ident) : List Ident :=
  c.holdersFrom id [] id bound

/-- Whether going on from an element meets another one before a holder is visited again. At most
`bound` more of them are visited. -/
def meetsFrom (c : Containment) (ancestor : Ident) (visited : List Ident) (last : Ident) :
    Nat → Bool
  | 0 => c.parent? last == some ancestor
  | bound + 1 =>
    match c.parent? last with
    | none => false
    | some holder =>
      holder == ancestor ||
        (!visited.contains holder && c.meetsFrom ancestor (holder :: visited) holder bound)

/-- Whether one element lies, at any depth, inside another, if at most `bound` holders are visited
on the way. -/
def isAncestorWithin (c : Containment) (bound : Nat) (ancestor id : Ident) : Bool :=
  c.meetsFrom ancestor [] id bound

/-- Lists the awaiting elements that are not yet seen, each followed by what it holds and at most
`bound` of them. -/
def sweepWithin (c : Containment) (bound : Nat) (seen : List Ident) : List Ident → List Ident
  | [] => []
  | next :: rest =>
    match bound with
    | 0 => []
    | bound + 1 =>
      if _h : next ∈ seen then sweepWithin c (bound + 1) seen rest
      else next :: sweepWithin c bound (next :: seen) (c.children next ++ rest)
termination_by awaiting => (c.placements.filter fun p => p.parent ∉ seen).length + awaiting.length
decreasing_by
  · simp
  · have hcount := length_filter_notMem_cons Placement.parent _h c.placements
    simp only [children, List.length_append, List.length_map, List.length_cons]
    omega

/-- Everything below an element, each element before what it holds, none of them twice and at most
`bound` of them. -/
def descendantsWithin (c : Containment) (bound : Nat) (id : Ident) : List Ident :=
  c.sweepWithin bound [id] (c.children id)

end Containment

end Viewpoint
