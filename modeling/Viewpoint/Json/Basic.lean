/-!
# JSON values

The exchange format of documents and results. The entries of an object keep their order and their
repetitions, as criteria are read in the order in which they are written.

* `Json.sortKeys` orders the entries of all objects, which is how results are written.
-/

namespace Viewpoint

/-- A JSON value. -/
inductive Json where
  | null
  | bool (value : Bool)
  /-- A whole number. -/
  | int (value : Int)
  /-- A number with a fraction or an exponent, or negative zero, as written. -/
  | decimal (text : String)
  | str (value : String)
  | arr (items : List Json)
  | obj (entries : List (String × Json))
  /-- A well-formed text, or an object with such a key, whose escapes name no characters. -/
  | unreadable

namespace Json

/-- The array of some texts. -/
def strings (texts : List String) : Json :=
  .arr (texts.map .str)

/-- The text if there is one. -/
def ofText? : Option String → Json
  | none => null
  | some text => str text

/-- The entry of an object if there is a value for it. -/
def entry? (key : String) (value : Option Json) : List (String × Json) :=
  match value with
  | none => []
  | some value => [(key, value)]

/-- The value under a key of an object; of repeated keys the first one counts. -/
def get? (json : Json) (key : String) : Option Json :=
  match json with
  | obj entries => entries.lookup key
  | _ => none

mutual

/-- The value with the entries of all objects in increasing order of their keys. -/
def sortKeys : Json → Json
  | arr items => .arr (sortItems items)
  | obj entries => .obj ((sortEntries entries).mergeSort fun a b => a.1 ≤ b.1)
  | json => json

/-- Values, each with its keys in order. -/
def sortItems : List Json → List Json
  | [] => []
  | item :: items => sortKeys item :: sortItems items

/-- Entries whose values have their keys in order. -/
def sortEntries : List (String × Json) → List (String × Json)
  | [] => []
  | (key, value) :: entries => (key, sortKeys value) :: sortEntries entries

end

end Json

end Viewpoint
