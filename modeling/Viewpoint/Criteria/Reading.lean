import Viewpoint.Criteria.Basic
import Viewpoint.Diagnostic

/-!
# Reading criteria

Criteria are written as maps from keys to values: a flag, a text or a list of texts. A key is the
name of a predicate, after a mark if the clause is negated. The first clause that cannot be read is
the reason why the criteria cannot.

* `CriteriaDecl` are criteria as written, `CriteriaDecl.criteria` reads them.
* `Predicate.read` reads the predicate of a key with its value.
* `CriteriaError` are the reasons.
-/

namespace Viewpoint

/-- A value as written. -/
inductive ClauseValue where
  | flag (value : Bool)
  | text (value : String)
  | list (values : List String)
  deriving DecidableEq

/-- A key with its value as written. -/
structure ClauseDecl where
  /-- The key, with its mark. -/
  key : String
  /-- The value. -/
  value : ClauseValue
  deriving DecidableEq

/-- Criteria as written: a map, or a list of maps. -/
inductive CriteriaDecl where
  | all (clauses : List ClauseDecl)
  | anyOf (alternatives : List (List ClauseDecl))
  deriving DecidableEq

/-- The sorts of values. -/
inductive ClauseShape where
  | text | list | flag
  deriving DecidableEq

/-- The sort of value in words. -/
def ClauseShape.description : ClauseShape → String
  | text => "a string"
  | list => "a list of strings"
  | flag => "a boolean"

/-- Why criteria cannot be read. Keys are named without their marks. -/
inductive CriteriaError where
  /-- No predicate has this key. -/
  | unknownKey (key : String)
  /-- The key takes a value of another sort. -/
  | wrongShape (key : String) (expected : ClauseShape)
  /-- The value is no pattern. -/
  | invalidPattern (key : String) (fault : Pattern.Fault)
  /-- The value is no maturity. -/
  | invalidMaturity (key value : String)
  deriving DecidableEq

namespace CriteriaError

/-- The code under which the error is reported. -/
def code : CriteriaError → DiagnosticCode
  | unknownKey _ => .unknownPredicate
  | wrongShape .. => .wrongValue
  | invalidPattern .. => .invalidPattern
  | invalidMaturity .. => .invalidMaturity

/-- The error in words. -/
def message : CriteriaError → String
  | unknownKey key => s!"unknown predicate key `{key}`"
  | wrongShape key expected => s!"predicate `{key}` expects {expected.description}"
  | invalidPattern key _ => s!"predicate `{key}` has an invalid regular expression"
  | invalidMaturity key value => s!"predicate `{key}` has invalid maturity `{value}`"

/-- The error in the form in which it is reported. -/
def diagnostic (error : CriteriaError) : Diagnostic where
  severity := .error
  code := error.code
  message := error.message
  help :=
    match error with
    | invalidMaturity .. => some "use `proposed`, `deprecated` or `none`"
    | _ => none

end CriteriaError

/-- The text that stands for the absence of a maturity. -/
def noMaturity : String := "none"

/-- Reads the name of a maturity or of its absence. -/
def readMaturity (key text : String) : Except CriteriaError (Option Maturity) :=
  if text = noMaturity then .ok none
  else
    match Maturity.ofText? text with
    | some found => .ok (some found)
    | none => .error (.invalidMaturity key text)

namespace ClauseValue

/-- The text that a key takes. -/
def readText (key : String) : ClauseValue → Except CriteriaError String
  | text value => .ok value
  | _ => .error (.wrongShape key .text)

/-- The list that a key takes. -/
def readList (key : String) : ClauseValue → Except CriteriaError (List String)
  | list values => .ok values
  | _ => .error (.wrongShape key .list)

/-- The flag that a key takes. -/
def readFlag (key : String) : ClauseValue → Except CriteriaError Bool
  | flag value => .ok value
  | _ => .error (.wrongShape key .flag)

/-- The pattern that a key takes. -/
def readPattern [PatternEngine] (key : String) (value : ClauseValue) :
    Except CriteriaError Pattern := do
  let text ← value.readText key
  match PatternEngine.compile text with
  | .ok pattern => .ok pattern
  | .error fault => .error (.invalidPattern key fault)

end ClauseValue

/-- The predicate of a key with a value. -/
def Predicate.read [PatternEngine] (key : String) (value : ClauseValue) :
    Except CriteriaError Predicate :=
  match key with
  | "el" => return .kind (← value.readText key)
  | "els" => return .kinds (← value.readList key)
  | "id" => return .id ⟨← value.readText key⟩
  | "ids" => return .ids ((← value.readList key).map Ident.mk)
  | "namespace" => return .nameSpace (← value.readText key)
  | "namespaces" => return .nameSpaces (← value.readList key)
  | "namespace-prefix" => return .nameSpacePrefix (← value.readText key)
  | "tech" => return .tech (← value.readText key)
  | "techs" => return .techs (← value.readList key)
  | "all-techs" => return .allTechs (← value.readList key)
  | "tag" => return .tag (← value.readText key)
  | "tags" => return .tags (← value.readList key)
  | "all-tags" => return .allTags (← value.readList key)
  | "external?" => return .external (← value.readFlag key)
  | "element?" => return .isElement (← value.readFlag key)
  | "relation?" => return .isRelation (← value.readFlag key)
  | "maturity" => return .maturity (← readMaturity key (← value.readText key))
  | "maturities" => return .maturities (← (← value.readList key).mapM (readMaturity key))
  | "from" => return .source ⟨← value.readText key⟩
  | "to" => return .target ⟨← value.readText key⟩
  | "refers-to" => return .refersTo ⟨← value.readText key⟩
  | "referred-by" => return .referredBy ⟨← value.readText key⟩
  | "child-of" => return .childOf ⟨← value.readText key⟩
  | "parent-of" => return .parentOf ⟨← value.readText key⟩
  | "descendant-of" => return .descendantOf ⟨← value.readText key⟩
  | "ancestor-of" => return .ancestorOf ⟨← value.readText key⟩
  | "name" => return .name (← value.readPattern key)
  | "desc" => return .desc (← value.readPattern key)
  | "doc" => return .doc (← value.readPattern key)
  | unknown => .error (.unknownKey unknown)

namespace ClauseDecl

/-- Whether a key is negated, and the key without its mark. At most one mark is taken off. -/
def splitKey (key : String) : Bool × String :=
  match key.toList with
  | '!' :: rest => (true, String.ofList rest)
  | _ => (false, key)

/-- Reads a clause. -/
def clause [PatternEngine] (decl : ClauseDecl) : Except CriteriaError Clause :=
  let (negated, name) := splitKey decl.key
  return ⟨← Predicate.read name decl.value, negated⟩

end ClauseDecl

/-- Reads the clauses of a map, in their order. -/
def readConjunction [PatternEngine] (clauses : List ClauseDecl) :
    Except CriteriaError Conjunction :=
  return ⟨← clauses.mapM ClauseDecl.clause⟩

/-- Reads criteria. -/
def CriteriaDecl.criteria [PatternEngine] : CriteriaDecl → Except CriteriaError Criteria
  | all clauses => return .all (← readConjunction clauses)
  | anyOf alternatives => return .anyOf (← alternatives.mapM readConjunction)

end Viewpoint
