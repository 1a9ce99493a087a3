/-!
# Sets of code points

A set of code points is kept as ranges. Character classes are such sets, and the operations on them
are those of set algebra.

* `CodeSet.contains` is membership.
* `CodeSet.contains_union` says which code points a union has.
-/

namespace Viewpoint

/-- The code points from a first to a last one, both included. -/
structure CodeRange where
  /-- The smallest member. -/
  first : Nat
  /-- The greatest member. -/
  last : Nat
  deriving DecidableEq, Inhabited

/-- Whether a code point lies in a range. -/
def CodeRange.contains (range : CodeRange) (code : Nat) : Bool :=
  range.first ≤ code && code ≤ range.last

/-- A set of code points, as the union of ranges. -/
structure CodeSet where
  /-- The ranges. -/
  ranges : List CodeRange
  deriving DecidableEq, Inhabited

namespace CodeSet

/-- The greatest code point. -/
def greatest : Nat := 0x10FFFF

/-- The set without members. -/
def empty : CodeSet := ⟨[]⟩

instance : EmptyCollection CodeSet := ⟨empty⟩

/-- All code points. -/
def full : CodeSet := ⟨[⟨0, greatest⟩]⟩

/-- The set of one code point. -/
def single (code : Nat) : CodeSet := ⟨[⟨code, code⟩]⟩

/-- The set of the code points from a first to a last one. -/
def interval (first last : Nat) : CodeSet := ⟨[⟨first, last⟩]⟩

/-- Whether a code point is a member. -/
def contains (set : CodeSet) (code : Nat) : Bool :=
  set.ranges.any (·.contains code)

/-- Joins the ranges of a list, ordered by their first members, that touch or overlap. -/
def joinRanges (current : CodeRange) : List CodeRange → List CodeRange
  | [] => [current]
  | next :: rest =>
    if next.first ≤ current.last + 1 then
      joinRanges ⟨current.first, max current.last next.last⟩ rest
    else current :: joinRanges next rest

/-- The same set with the fewest ranges, in increasing order. -/
def normalize (set : CodeSet) : CodeSet :=
  match set.ranges.mergeSort (fun a b => a.first ≤ b.first) with
  | [] => empty
  | first :: rest => ⟨joinRanges first rest⟩

/-- The character that follows a code point. The surrogates are no characters. -/
def next (code : Nat) : Nat :=
  if code = 0xD7FF then 0xE000 else code + 1

/-- The character that comes before a code point. -/
def previous (code : Nat) : Nat :=
  if code = 0xE000 then 0xD7FF else code - 1

/-- The gaps before increasing ranges and after the last of them, from a given code point on. Where
two ranges meet across the surrogates, the ends of the gap come in the wrong order. -/
def gapsFrom (start : Nat) : List CodeRange → List CodeRange
  | [] => if start ≤ greatest then [⟨start, greatest⟩] else []
  | range :: rest => ⟨start, previous range.first⟩ :: gapsFrom (next range.last) rest

/-- The gaps that a set leaves. -/
def gaps (set : CodeSet) : List CodeRange :=
  match set.normalize.ranges with
  | [] => full.ranges
  | range :: rest =>
    if range.first = 0 then gapsFrom (next range.last) rest else gapsFrom 0 (range :: rest)

/-- The characters that are not members. -/
def complement (set : CodeSet) : CodeSet :=
  ⟨set.gaps.filter fun gap => gap.first ≤ gap.last⟩

/-- The ranges between the ranges of a set. They are the characters that are not members, except
that two ranges which meet across the surrogates have the two characters at their ends between
them. -/
def between (set : CodeSet) : CodeSet :=
  ⟨set.gaps.map fun gap => ⟨min gap.first gap.last, max gap.first gap.last⟩⟩

/-- The members of either set. -/
def union (left right : CodeSet) : CodeSet :=
  ⟨left.ranges ++ right.ranges⟩

/-- What two lists of increasing ranges have in common. -/
def interRanges : List CodeRange → List CodeRange → List CodeRange
  | [], _ => []
  | _, [] => []
  | left :: lefts, right :: rights =>
    let rest :=
      if left.last < right.last then interRanges lefts (right :: rights)
      else interRanges (left :: lefts) rights
    let common : CodeRange := ⟨max left.first right.first, min left.last right.last⟩
    if common.first ≤ common.last then common :: rest else rest
termination_by lefts rights => lefts.length + rights.length

/-- The members of both sets. -/
def inter (left right : CodeSet) : CodeSet :=
  ⟨interRanges left.normalize.ranges right.normalize.ranges⟩

/-- The members of the first set that are not in the second. -/
def difference (left right : CodeSet) : CodeSet :=
  left.inter right.complement

/-- The members of exactly one of the sets. -/
def symmetricDifference (left right : CodeSet) : CodeSet :=
  (left.union right).difference (left.inter right)

/-- Whether every member is an ASCII character. -/
def isAscii (set : CodeSet) : Bool :=
  set.ranges.all (·.last < 0x80)

/-- A union has the members of both sets. -/
@[simp]
theorem contains_union (left right : CodeSet) (code : Nat) :
    (left.union right).contains code = (left.contains code || right.contains code) := by
  simp [contains, union]

/-- The set of one code point has that member alone. -/
@[simp]
theorem contains_single (code other : Nat) :
    (single code).contains other = decide (other = code) := by
  simp only [contains, single, CodeRange.contains, List.any_cons, List.any_nil, Bool.or_false]
  by_cases h : other = code <;> simp [h]
  omega

end CodeSet

end Viewpoint
