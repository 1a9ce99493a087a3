import Viewpoint.Unicode.Category

/-!
# Members of character classes

The members of a class that has a name are listed, or they are put together from general categories
and other classes. A list is a text that counts through all code points: each number says how many
code points come next, one if there is none, and the sign after it whether they are members.

* `Members` says what a class has, `Members.set` is the set.
* `NamedMembers.find?` finds a class by one of its names.
-/

namespace Viewpoint.Unicode

/-- What the members of a class are. -/
inductive Members where
  /-- Those that a list counts with a plus. -/
  | listed (runs : List String)
  /-- The characters of some general categories. -/
  | categories (categories : List Category)
  /-- The members of either class. -/
  | union (left right : Members)
  /-- The members of both classes. -/
  | inter (left right : Members)
  /-- The members of the first class that are not in the second. -/
  | without (left right : Members)

/-- Reads the ranges of a list. The next run starts at `start`, and `length` is what has been read
of its length. -/
def readRanges (start length : Nat) : List Char → List CodeRange
  | [] => []
  | c :: rest =>
    if c.isDigit then readRanges start (length * 10 + (c.toNat - '0'.toNat)) rest
    else
      let later := readRanges (start + max length 1) 0 rest
      if c = '+' then ⟨start, start + max length 1 - 1⟩ :: later else later

/-- The set that members form. -/
def Members.set : Members → CodeSet
  | listed runs => ⟨readRanges 0 0 (runs.flatMap String.toList)⟩
  | categories list => Category.setWhere list.contains
  | union left right => (left.set.union right.set).normalize
  | inter left right => left.set.inter right.set
  | without left right => left.set.difference right.set

/-- A class with its names, written in lower case without separators. -/
structure NamedMembers where
  /-- The names. -/
  names : List String
  /-- The members. -/
  members : Members

/-- The class of a list that has a given name. -/
def NamedMembers.find? (classes : List NamedMembers) (name : String) : Option CodeSet :=
  (classes.find? (·.names.contains name)).map (·.members.set)

end Viewpoint.Unicode
