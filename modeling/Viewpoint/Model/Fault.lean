import Viewpoint.Diagnostic
import Viewpoint.Notice

/-!
# What can go wrong while building

A name that is declared twice and a containment that runs in a circle stop the building of a model.
References that do not resolve and placements that contradict an earlier one are warned about.
-/

namespace Viewpoint

/-- Where an item is declared. -/
structure Site where
  /-- The name of the source. -/
  source : String
  /-- The position of the source among the sources. -/
  sourceIndex : Nat
  /-- The position of the item among the flattened declarations of its source. -/
  position : Nat
  deriving DecidableEq

/-- The site in words; a source without a name is called by its position. -/
def Site.text (site : Site) : String :=
  let source :=
    if site.source = "" then s!"source #{site.sourceIndex}" else s!"source `{site.source}`"
  s!"{source} declaration #{site.position}"

/-- Why no model can be built. -/
inductive BuildError where
  /-- Two declarations have the same name. -/
  | duplicateId (id : Ident) (first duplicate : Site)
  /-- Elements lie inside one another in a circle; the path starts and ends at the same one. -/
  | containmentCycle (path : List Ident)
  deriving DecidableEq

namespace BuildError

/-- The code under which the error is reported. -/
def code : BuildError → DiagnosticCode
  | duplicateId .. => .duplicateId
  | containmentCycle _ => .containmentCycle

/-- The error in words. -/
def message : BuildError → String
  | duplicateId id first duplicate =>
    s!"duplicate id `{id}`: declared in {first.text} and again in {duplicate.text}"
  | containmentCycle path => s!"containment cycle: {pathText path}"

/-- The error in the form in which it is reported. -/
def diagnostic (error : BuildError) : Diagnostic where
  severity := .error
  code := error.code
  message := error.message
  subjects :=
    match error with
    | duplicateId id .. => [id]
    | containmentCycle path => path
  help :=
    match error with
    | duplicateId .. =>
      some "rename one of the declarations; later declarations never replace earlier ones"
    | containmentCycle _ =>
      some "containment must form a tree; remove one owner or `contained-in` relation"

end BuildError

/-- The place in an item where another element is named. -/
inductive Reference where
  | source | target | owner
  deriving DecidableEq

instance : Vocabulary Reference where
  words := [.source, .target, .owner]
  spelling
    | .source => "from"
    | .target => "to"
    | .owner => "owner"

/-- What building recovers from. -/
inductive BuildWarning where
  /-- An item names an element that is not declared. -/
  | unresolved (item : Ident) (reference : Reference) (missing : Ident)
  /-- An element is placed in a second holder, which is ignored. -/
  | conflictingParent (element kept ignored : Ident)
  deriving DecidableEq

namespace BuildWarning

/-- The code under which the warning is reported. -/
def code : BuildWarning → DiagnosticCode
  | unresolved .. => .unresolvedReference
  | conflictingParent .. => .conflictingParent

/-- The warning in words. -/
def message : BuildWarning → String
  | unresolved item reference missing =>
    s!"`{item}` {Vocabulary.spelling reference} references unknown element `{missing}`"
  | conflictingParent element kept ignored =>
    s!"`{element}` is placed in both `{kept}` and `{ignored}`; keeping `{kept}`"

/-- The warning in the form in which it is reported. -/
def diagnostic (warning : BuildWarning) : Diagnostic where
  severity := .warning
  code := warning.code
  message := warning.message
  subjects :=
    match warning with
    | unresolved item _ missing => [item, missing]
    | conflictingParent element kept ignored => [element, kept, ignored]
  help :=
    match warning with
    | unresolved .. => some "declare the element or fix the id"
    | conflictingParent .. => none

/-- The record of a warning. -/
def notice (warning : BuildWarning) : Notice where
  fields := [("code", warning.code.text)]
  message := warning.message

end BuildWarning

end Viewpoint
