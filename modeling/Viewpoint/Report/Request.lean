import Viewpoint.Exchange.Reading
import Viewpoint.Exchange.SettingsFile
import Viewpoint.Pattern
import Viewpoint.Report.Basic

/-!
# Requests

A request says what is wanted to be known of a document. It is answered step by step, and the first
step that fails is the reason why there is no report: reading the settings, reading the document,
building the model and then selecting items or composing views.

* `Request.report` answers a request about a document that has been read.
* `Request.run` answers a request about files.
-/

namespace Viewpoint

/-- What is asked of a document. -/
structure Request where
  /-- The criteria of the items to select, as a text. Without them views are composed. -/
  select : Option String := none
  /-- What the selection is widened by. -/
  flags : List IncludeFlag := []
  /-- The only view to compose. -/
  view : Option Ident := none

namespace Request

/-- Selects the items that criteria ask for, which are given as a text. -/
def selectFrom [PatternEngine] (request : Request) (model : Model) (settings : Settings)
    (criteria : String) : Logged (Except Failure Selection) :=
  match CriteriaDecl.decoder.ofText? criteria with
  | none => pure (.error .malformedInput)
  | some decl =>
    match decl.criteria with
    | .error error => pure (.error (.criteria error))
    | .ok criteria => do
      let selection ← model.select settings.selection criteria request.flags
      pure (.ok selection)

/-- What a request shows of a model and of the views that were written for it. -/
def body [PatternEngine] (request : Request) (model : Model) (settings : Settings)
    (views : List ViewDecl) : Logged (Except Failure ReportBody) :=
  match request.select with
  | some criteria => do
    let selection ← request.selectFrom model settings criteria
    pure (selection.map .selection)
  | none => do
    let outcomes ← model.viewsFor settings views request.view
    pure (outcomes.map .views)

/-- Answers a request about a document. -/
def report [PatternEngine] (request : Request) (settings : Settings) (document : Document) :
    Logged (Except Failure Report) := do
  match ← Model.build document.sources with
  | .error error => pure (.error (.build error))
  | .ok built => do
    Logged.record (built.warnings.map BuildWarning.reportNotice)
    let body ← request.body built.model settings document.views
    pure (body.map fun body => { warnings := built.warnings, body })

/-- Answers a request about a document in a file, with settings in files. Patterns are regular
expressions. -/
def run (request : Request) (files : SettingsFiles) (document : FileState) :
    Logged (Except Failure Report) :=
  match files.settings?, document.text? with
  | none, _ => pure (.error .unusableFile)
  | some _, none => pure (.error .unusableFile)
  | some settings, some text =>
    match Document.decoder.ofText? text with
    | none => pure (.error .malformedInput)
    | some document => request.report settings document

end Request

end Viewpoint
