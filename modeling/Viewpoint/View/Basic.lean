import Viewpoint.Criteria.Basic
import Viewpoint.Expansion
import Viewpoint.HintMap

/-!
# Views

A view shows a part of a model. Its body says what: the items that meet criteria, an explicit list,
or what another view shows, filtered by tags.

* `ViewBody` are the three bodies.
* `Layout.inherit` lays the layout of a view over that of its base.
-/

namespace Viewpoint

/-- How a view should be drawn. -/
structure Layout where
  /-- The main direction. -/
  direction : Option Direction := none
  /-- Further hints under names. -/
  hints : HintMap := ∅
  deriving DecidableEq, Inhabited

/-- A layout laid over the layout of a base: what it says itself counts. -/
def Layout.inherit (own base : Layout) : Layout where
  direction := own.direction.or base.direction
  hints := base.hints.update own.hints

/-- An entry of an explicit list: an item and how it is shown. -/
structure ContentRef where
  /-- The item. -/
  item : Ident
  /-- The rank of the entry among the others. -/
  order : Option Int := none
  /-- The display name to show instead of the item's own. -/
  name : Option String := none
  /-- The description to show instead of the item's own. -/
  desc : Option String := none
  /-- The technologies to show instead of the item's own. -/
  tech : Option (List String) := none
  deriving DecidableEq

/-- Whether the tags of a filter are kept or left out. -/
inductive FilterMode where
  | keep | drop
  deriving DecidableEq, Inhabited

instance : Vocabulary FilterMode where
  words := [.keep, .drop]
  spelling
    | .keep => "include"
    | .drop => "exclude"

/-- A choice of items by their tags. -/
structure TagFilter where
  /-- Whether the tagged items are kept or left out. -/
  mode : FilterMode := .keep
  /-- The tags; an item is tagged if it has one of them. -/
  tags : List String
  deriving DecidableEq

/-- What a view shows. -/
inductive ViewBody where
  /-- The items that meet criteria, widened by include flags, less those to exclude. -/
  | selection (criteria : Criteria) (flags : List IncludeFlag) (exclude : Option Criteria)
  /-- The items of a list. -/
  | explicit (content : List ContentRef)
  /-- What another view shows, filtered by tags. -/
  | filtered (base : Ident) (filter : TagFilter)

namespace ViewBody

/-- Adds include flags to a selection; other bodies have none. -/
def addFlags (more : List IncludeFlag) : ViewBody → ViewBody
  | selection criteria flags exclude => selection criteria (flags ++ more) exclude
  | body => body

/-- Sets what a selection excludes; other bodies exclude nothing. -/
def setExclude (criteria : Criteria) : ViewBody → ViewBody
  | selection selected flags _ => selection selected flags (some criteria)
  | body => body

end ViewBody

/-- A named part of a model to be shown. -/
structure View where
  /-- The name of the view. -/
  id : Ident
  /-- What kind of view it is. -/
  kind : ViewKind
  /-- The title to show. -/
  title : Option String := none
  /-- How to draw it. -/
  layout : Layout := {}
  /-- What it shows. -/
  body : ViewBody

end Viewpoint
