import Viewpoint.Criteria.Reading
import Viewpoint.Notice

/-!
# What can go wrong with views

A view may be written in a way that makes no sense, it may build on a view that does not exist, and
a custom view may show elements that it must not. What a view has to warn about does not stop it.
-/

namespace Viewpoint

/-- How the parts of a written view contradict its kind or one another. -/
inductive BodyMismatch where
  /-- A filtered view names no base. -/
  | noBase
  /-- A filtered view has a selection or content of its own. -/
  | filteredWithContent
  /-- A view that is not filtered has a base or a mode. -/
  | notFiltered
  /-- A view has both a selection and explicit content. -/
  | selectionAndContent
  /-- A dynamic view has a selection. -/
  | dynamicSelection
  /-- Include flags or exclusions stand without a selection. -/
  | partsWithoutSelection
  deriving DecidableEq

/-- The contradiction in words. -/
def BodyMismatch.message : BodyMismatch → String
  | noBase => "filtered view needs a `base` view"
  | filteredWithContent => "filtered view cannot have a selection or content"
  | notFiltered => "only filtered views have a `base` or `mode`"
  | selectionAndContent => "view has both a selection and explicit content"
  | dynamicSelection => "dynamic views list their content explicitly"
  | partsWithoutSelection => "`include` or `exclude` given without a selection"

/-- Why a view is invalid. -/
inductive InvalidViewReason where
  /-- The base does not exist. -/
  | missingBase (base : Ident)
  /-- Views are based on one another in a circle; the path starts and ends at the same one. -/
  | cyclicBase (path : List Ident)
  /-- The base exists but fails itself. -/
  | baseFailed (base : Ident)
  /-- A custom view shows an element of a modeled kind. -/
  | nonCustomElement (element : Ident)
  /-- The parts of the view do not fit. -/
  | bodyMismatch (mismatch : BodyMismatch)
  deriving DecidableEq

/-- The reason in words. -/
def InvalidViewReason.message : InvalidViewReason → String
  | missingBase base => s!"base view `{base}` does not exist"
  | cyclicBase path => s!"cyclic base views {pathText path}"
  | baseFailed base => s!"base view `{base}` failed to compose"
  | nonCustomElement element => s!"custom view contains non-custom element `{element}`"
  | bodyMismatch mismatch => mismatch.message

/-- Why there is no view, or nothing to show for one. -/
inductive ViewError where
  /-- The view is invalid. -/
  | invalid (view : Ident) (reason : InvalidViewReason)
  /-- Two views have this name. -/
  | duplicateView (view : Ident)
  /-- No view has this name. -/
  | notFound (view : Ident)
  /-- The criteria of the view cannot be read. -/
  | criteria (view : Ident) (error : CriteriaError)
  deriving DecidableEq

namespace ViewError

/-- The view that the error is about. -/
def view : ViewError → Ident
  | invalid view _ => view
  | duplicateView view => view
  | notFound view => view
  | criteria view _ => view

/-- The code under which the error is reported. -/
def code : ViewError → DiagnosticCode
  | invalid .. => .invalidView
  | duplicateView _ => .duplicateView
  | notFound _ => .unknownView
  | criteria _ error => error.code

/-- The error in words. -/
def message : ViewError → String
  | invalid view reason => s!"view `{view}` has an invalid type: {reason.message}"
  | duplicateView view => s!"duplicate view id `{view}`"
  | notFound view => s!"view `{view}` not found"
  | criteria view error => s!"view `{view}` has invalid criteria: {error.message}"

/-- The error in the form in which it is reported. -/
def diagnostic (error : ViewError) : Diagnostic where
  severity := .error
  code := error.code
  message := error.message
  subjects := [error.view]

end ViewError

/-- What composing a view warns about. -/
inductive ViewWarning where
  /-- The view shows nothing. -/
  | emptyContent (view : Ident)
  /-- The view names an item that does not exist. -/
  | unknownItem (view item : Ident)
  /-- Some entries of the view have an order and some have none. -/
  | mixedOrder (view : Ident)
  deriving DecidableEq

namespace ViewWarning

/-- The code under which the warning is reported. -/
def code : ViewWarning → DiagnosticCode
  | emptyContent _ => .emptyContent
  | unknownItem .. => .unknownItem
  | mixedOrder _ => .mixedOrder

/-- The warning in words. -/
def message : ViewWarning → String
  | emptyContent view => s!"view `{view}` selected no content"
  | unknownItem view item => s!"view `{view}` references unknown item `{item}`"
  | mixedOrder view => s!"view `{view}` mixes ordered and unordered entries; using list position"

/-- The warning in the form in which it is reported. -/
def diagnostic (warning : ViewWarning) : Diagnostic where
  severity := .warning
  code := warning.code
  message := warning.message
  subjects :=
    match warning with
    | emptyContent view => [view]
    | unknownItem view item => [view, item]
    | mixedOrder view => [view]
  help :=
    match warning with
    | emptyContent _ => some "check the selection criteria and include flags"
    | unknownItem .. => none
    | mixedOrder _ => some "give every entry an `order` or none of them"

/-- The record of a warning of a view. -/
def notice (view : Ident) (warning : ViewWarning) : Notice where
  fields := [("view", view.text), ("code", warning.code.text)]
  message := warning.message

end ViewWarning

end Viewpoint
