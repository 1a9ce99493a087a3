import Viewpoint.View.Basic
import Viewpoint.View.Fault

/-!
# Views as written

A view is written with many optional parts, of which only some go together. Reading a view checks
its parts against its kind and reads its criteria.

* `ViewDecl` is a view as written, `ViewDecl.view` reads it.
* `ViewDecl.mismatch?` is the first contradiction between its parts.
-/

namespace Viewpoint

/-- A view as written. -/
structure ViewDecl where
  /-- The name of the view. -/
  id : Ident
  /-- What kind of view it is. -/
  kind : ViewKind
  /-- The title to show. -/
  title : Option String := none
  /-- How to draw it. -/
  layout : Layout := {}
  /-- The criteria of the items to show. -/
  selection : Option CriteriaDecl := none
  /-- What the selection is widened by. -/
  flags : List IncludeFlag := []
  /-- The criteria of the items to leave out. -/
  exclude : Option CriteriaDecl := none
  /-- The items to show, one by one. -/
  content : Option (List ContentRef) := none
  /-- The view to filter. -/
  base : Option Ident := none
  /-- Whether the tagged items of the base are kept or left out. -/
  mode : Option FilterMode := none
  /-- The tags to filter by. -/
  tags : List String := []

namespace ViewDecl

/-- Whether the view has a part that belongs to selections. -/
def hasSelectionParts (decl : ViewDecl) : Bool :=
  decl.selection.isSome || !decl.flags.isEmpty || decl.exclude.isSome

/-- The refusal of a view whose parts do not fit. -/
def refuse {α : Type} (decl : ViewDecl) (mismatch : BodyMismatch) : Except ViewError α :=
  .error (.invalid decl.id (.bodyMismatch mismatch))

/-- Reads criteria of the view. -/
def readCriteria [PatternEngine] (decl : ViewDecl) (criteria : CriteriaDecl) :
    Except ViewError Criteria :=
  criteria.criteria.mapError (.criteria decl.id)

/-- What the view shows. -/
def body [PatternEngine] (decl : ViewDecl) : Except ViewError ViewBody :=
  if decl.kind = .modeled .filtered then
    match decl.base with
    | none => decl.refuse .noBase
    | some base =>
      if decl.hasSelectionParts || decl.content.isSome then decl.refuse .filteredWithContent
      else .ok (.filtered base ⟨decl.mode.getD .keep, decl.tags⟩)
  else if decl.base.isSome || decl.mode.isSome then decl.refuse .notFiltered
  else
    match decl.content, decl.selection with
    | some content, _ =>
      if decl.hasSelectionParts then decl.refuse .selectionAndContent else .ok (.explicit content)
    | none, some selection =>
      if decl.kind = .modeled .dynamic then decl.refuse .dynamicSelection
      else do
        let criteria ← decl.readCriteria selection
        let exclude ← decl.exclude.mapM decl.readCriteria
        pure (.selection criteria decl.flags exclude)
    | none, none =>
      if decl.hasSelectionParts then decl.refuse .partsWithoutSelection else .ok (.explicit [])

/-- Reads a view. -/
def view [PatternEngine] (decl : ViewDecl) : Except ViewError View := do
  let body ← decl.body
  pure { id := decl.id, kind := decl.kind, title := decl.title, layout := decl.layout, body }

end ViewDecl

end Viewpoint
