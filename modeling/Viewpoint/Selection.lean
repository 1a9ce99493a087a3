import Viewpoint.Criteria.Matching
import Viewpoint.Expansion

/-!
# Selection

Items can be selected without any view: those that meet criteria, widened by include flags.

* `Model.select` selects items of a model, in the order in which results are given.
-/

namespace Viewpoint

/-- Selected items, in the order in which results are given. -/
structure Selection where
  /-- The items. -/
  items : List Item

namespace Selection

/-- The names of the selected items. -/
def ids (selection : Selection) : List Ident :=
  selection.items.map Item.id

/-- Whether an item of this name is selected. -/
def contains (selection : Selection) (id : Ident) : Bool :=
  selection.items.any (·.id = id)

end Selection

namespace Model

/-- The items with the given names, in the order in which results are given; other names are
skipped. -/
def itemsOf (model : Model) (ids : List Ident) : List Item :=
  model.inDeclaredOrder (ids.filterMap model.item?)

/-- The items that meet criteria, widened by include flags. -/
def select (model : Model) (settings : SelectionSettings) (criteria : Criteria)
    (flags : List IncludeFlag) : Logged Selection := do
  let matched ← model.matching settings criteria
  pure ⟨model.itemsOf (model.expand matched flags).toList⟩

end Model

end Viewpoint
