import Viewpoint.Composition
import Viewpoint.Document
import Viewpoint.Model.Build

/-!
# Reports

A report shows either the items that criteria select or the composed views of a document. A view
that fails is reported in its place; it does not stop the others.

* `DocumentViews.ofDecls` reads the views of a document, `DocumentViews.composeAll` composes them.
* `Filling.fillAll` puts the outcomes into the places of the views.
* `Model.viewsFor` composes the views that a report shows.
* `Failure` are the reasons why there is no report.
-/

namespace Viewpoint

/-- Why there is no report. -/
inductive Failure where
  /-- A file is missing, is no text, or is no settings file. -/
  | unusableFile
  /-- The document or the criteria are not written as they should be. -/
  | malformedInput
  /-- The model cannot be built. -/
  | build (error : BuildError)
  /-- The criteria cannot be read. -/
  | criteria (error : CriteriaError)
  /-- A view that is asked for fails, or the views do not go together. -/
  | view (error : ViewError)
  deriving DecidableEq

/-- The failure in words, with advice on further lines. -/
def Failure.text (failure : Failure) : String :=
  match failure with
  | unusableFile => "error: a file cannot be used"
  | malformedInput => "error: the input is malformed"
  | build error => reported error.diagnostic
  | criteria error => reported error.diagnostic
  | view error => reported error.diagnostic
where
  /-- A diagnostic with its advice. -/
  reported (diagnostic : Diagnostic) : String :=
    match diagnostic.advice with
    | some advice => diagnostic.text ++ "\n" ++ advice
    | none => diagnostic.text

/-- A view of a document that could not be read. -/
structure ViewFault where
  /-- The place of the view among all views. -/
  position : Nat
  /-- Why it could not be read. -/
  error : ViewError

/-- The views of a document: those that could be read as a set, and the others with their places. -/
structure DocumentViews where
  /-- The views that could be read. -/
  set : ViewSet
  /-- The views that could not be read, in order. -/
  faults : List ViewFault
  /-- How many views there are. -/
  declared : Nat

/-- What composing a view of a document has led to. -/
abbrev ViewOutcome := Except ViewError Content

/-- How far the places of the views have been filled. -/
structure Filling where
  /-- The faults that have not been placed. -/
  faults : List ViewFault
  /-- The outcomes of composing that have not been placed. -/
  composed : List ViewOutcome
  /-- What has been placed. -/
  placed : List ViewOutcome := []

namespace Filling

/-- Places the next outcome of composing, if there is one left. -/
def placeComposed (filling : Filling) : Option Filling :=
  match filling.composed with
  | [] => none
  | outcome :: rest =>
    some { filling with composed := rest, placed := filling.placed ++ [outcome] }

/-- Fills a place: with the next fault if that belongs there, otherwise with the next outcome of
composing. -/
def fill (filling : Filling) (position : Nat) : Option Filling :=
  match filling.faults with
  | [] => filling.placeComposed
  | fault :: rest =>
    if fault.position = position then
      some { filling with faults := rest, placed := filling.placed ++ [.error fault.error] }
    else filling.placeComposed

/-- Fills places in turn, up to the first one that nothing is left for. -/
def fillAll (filling : Filling) : List Nat → Filling
  | [] => filling
  | position :: rest =>
    match filling.fill position with
    | none => filling
    | some next => next.fillAll rest

end Filling

/-- The faults among what reading views has led to, where the first view has a given place. -/
def faultsFrom (position : Nat) : List (Except ViewError View) → List ViewFault
  | [] => []
  | .ok _ :: rest => faultsFrom (position + 1) rest
  | .error error :: rest => ⟨position, error⟩ :: faultsFrom (position + 1) rest

namespace DocumentViews

/-- Reads views. Two of those that can be read must not have the same name. -/
def ofDecls [PatternEngine] (decls : List ViewDecl) : Except ViewError DocumentViews := do
  let outcomes := decls.map ViewDecl.view
  let set ← ViewSet.ofViews (outcomes.filterMap Except.toOption)
  pure { set, faults := faultsFrom 0 outcomes, declared := decls.length }

/-- The fault of the first view of a name that could not be read. -/
def faultOf? (views : DocumentViews) (id : Ident) : Option ViewError :=
  (views.faults.find? (·.error.view = id)).map ViewFault.error

/-- Composes all views and puts what comes of them into their places. -/
def composeAll (views : DocumentViews) (model : Model) (settings : Settings) :
    Logged (List ViewOutcome) := do
  let composed ← views.set.composeAll model settings
  let filling : Filling := { faults := views.faults, composed }
  pure (filling.fillAll (List.range views.declared)).placed

/-- Composes the view with a name. -/
def compose (views : DocumentViews) (model : Model) (settings : Settings) (id : Ident) :
    Logged ViewOutcome :=
  match views.faultOf? id with
  | some error => pure (.error error)
  | none => views.set.compose model settings id

end DocumentViews

/-- What a report shows. -/
inductive ReportBody where
  /-- The selected items. -/
  | selection (selection : Selection)
  /-- The composed views. -/
  | views (outcomes : List ViewOutcome)

/-- The answer to a question about a document. -/
structure Report where
  /-- What building the model warned about. -/
  warnings : List BuildWarning
  /-- What is shown. -/
  body : ReportBody

/-- The notice of a warning about the model. -/
def BuildWarning.reportNotice (warning : BuildWarning) : Notice where
  fields := [("diagnostic", warning.diagnostic.text)]
  message := "Model warning"

/-- The notice of a view that failed. -/
def ViewError.reportNotice (error : ViewError) : Notice where
  fields := [("view", error.view.text), ("diagnostic", error.diagnostic.text)]
  message := "View failed"

/-- The notices of the views that failed. -/
def failureNotices (outcomes : List ViewOutcome) : List Notice :=
  outcomes.filterMap fun outcome =>
    match outcome with
    | .error error => some error.reportNotice
    | .ok _ => none

namespace Model

/-- Composes the views that a report shows: the only one that is asked for, which must not fail,
or all of them. -/
def viewsFor [PatternEngine] (model : Model) (settings : Settings) (decls : List ViewDecl)
    (only : Option Ident) : Logged (Except Failure (List ViewOutcome)) :=
  match DocumentViews.ofDecls decls with
  | .error error => pure (.error (.view error))
  | .ok views =>
    match only with
    | some id => do
      match ← views.compose model settings id with
      | .error error => pure (.error (.view error))
      | .ok content => pure (.ok [.ok content])
    | none => do
      let outcomes ← views.composeAll model settings
      Logged.record (failureNotices outcomes)
      pure (.ok outcomes)

end Model

end Viewpoint
