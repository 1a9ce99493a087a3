import Viewpoint.Ident
import Viewpoint.Vocabulary

/-!
# Diagnostics

Every error and every warning can be reported in one form: a severity, a code, a message, the
identifiers it is about and perhaps advice.

* `Diagnostic.text` is the one-line form.
* `Diagnostic.advice` is the advice followed by the subjects.
-/

namespace Viewpoint

/-- What a diagnostic is about. Codes in the hundreds belong to building, those in the two hundreds
to criteria and those in the three hundreds to views. -/
inductive DiagnosticCode where
  | duplicateId | containmentCycle | unresolvedReference | conflictingParent
  | unknownPredicate | wrongValue | invalidPattern | invalidMaturity
  | emptyContent | invalidView | unknownItem | mixedOrder | duplicateView | unknownView
  deriving DecidableEq

instance : Vocabulary DiagnosticCode where
  words := [.duplicateId, .containmentCycle, .unresolvedReference, .conflictingParent,
    .unknownPredicate, .wrongValue, .invalidPattern, .invalidMaturity,
    .emptyContent, .invalidView, .unknownItem, .mixedOrder, .duplicateView, .unknownView]
  spelling
    | .duplicateId => "E100"
    | .containmentCycle => "E101"
    | .unresolvedReference => "E102"
    | .conflictingParent => "E103"
    | .unknownPredicate => "E200"
    | .wrongValue => "E201"
    | .invalidPattern => "E202"
    | .invalidMaturity => "E203"
    | .emptyContent => "E300"
    | .invalidView => "E301"
    | .unknownItem => "E302"
    | .mixedOrder => "E303"
    | .duplicateView => "E304"
    | .unknownView => "E305"

/-- The written form of a code. -/
def DiagnosticCode.text (code : DiagnosticCode) : String :=
  Vocabulary.spelling code

/-- Whether the problem stops the work or was recovered from. -/
inductive Severity where
  | error | warning
  deriving DecidableEq

instance : Vocabulary Severity where
  words := [.error, .warning]
  spelling
    | .error => "error"
    | .warning => "warning"

/-- A problem in the form in which it is reported. -/
structure Diagnostic where
  /-- Whether the problem stops the work. -/
  severity : Severity
  /-- What the problem is. -/
  code : DiagnosticCode
  /-- The problem in words. -/
  message : String
  /-- The identifiers it is about. -/
  subjects : List Ident := []
  /-- What to do about it. -/
  help : Option String := none
  deriving DecidableEq

namespace Diagnostic

/-- The one-line form: severity, code in brackets, message. -/
def text (diagnostic : Diagnostic) : String :=
  Vocabulary.spelling diagnostic.severity ++ "[" ++ diagnostic.code.text ++ "]: "
    ++ diagnostic.message

/-- The subjects on one line, if there are any. -/
def subjectLine (diagnostic : Diagnostic) : Option String :=
  if diagnostic.subjects.isEmpty then none
  else some ("subjects: " ++ String.intercalate ", " (diagnostic.subjects.map Ident.text))

/-- What to do about the problem, then the subjects on a line of their own. -/
def advice (diagnostic : Diagnostic) : Option String :=
  match diagnostic.help, diagnostic.subjectLine with
  | none, line => line
  | some help, none => some help
  | some help, some line => some (help ++ "\n" ++ line)

end Diagnostic

/-- Identifiers joined by arrows, as the steps of a path. -/
def pathText (path : List Ident) : String :=
  String.intercalate " -> " (path.map Ident.text)

end Viewpoint
