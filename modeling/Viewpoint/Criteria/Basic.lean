import Viewpoint.Ident
import Viewpoint.Kind
import Viewpoint.Pattern.Engine

/-!
# Criteria

Criteria say which items are wanted. A predicate tests one property of an item; a clause is a
predicate that may be negated; a conjunction asks for all of its clauses. Criteria are one
conjunction or several, of which one must hold.

* `Predicate.Key` is the list of the predicates by name, `Predicate` has their arguments.
* `Criteria.text` is the form in which criteria are shown: the keys without their values.
-/

namespace Viewpoint

/-- A test of one property of an item. -/
inductive Predicate where
  /-- The kind has this tag. -/
  | kind (tag : String)
  /-- The kind has one of these tags. -/
  | kinds (tags : List String)
  /-- The item has this name. -/
  | id (id : Ident)
  /-- The item has one of these names. -/
  | ids (ids : List Ident)
  /-- The item's namespace is this one. -/
  | nameSpace (path : String)
  /-- The item's namespace is one of these. -/
  | nameSpaces (paths : List String)
  /-- The item's namespace is this one or lies below it. -/
  | nameSpacePrefix (path : String)
  /-- Some technology contains this text. -/
  | tech (text : String)
  /-- Some technology is one of these. -/
  | techs (techs : List String)
  /-- All of these are among the technologies. -/
  | allTechs (techs : List String)
  /-- The item has this tag. -/
  | tag (tag : String)
  /-- The item has one of these tags. -/
  | tags (tags : List String)
  /-- The item has all of these tags. -/
  | allTags (tags : List String)
  /-- The item is external, or is not. -/
  | external (expected : Bool)
  /-- The item is an element, or is not. -/
  | isElement (expected : Bool)
  /-- The item is a relation, or is not. -/
  | isRelation (expected : Bool)
  /-- The item has this maturity, or none. -/
  | maturity (maturity : Option Maturity)
  /-- The item's maturity, or its absence, is one of these. -/
  | maturities (maturities : List (Option Maturity))
  /-- The item is a relation that starts here. -/
  | source (id : Ident)
  /-- The item is a relation that ends here. -/
  | target (id : Ident)
  /-- The item leads here. -/
  | refersTo (id : Ident)
  /-- The item is led to from here. -/
  | referredBy (id : Ident)
  /-- The item lies directly inside this element. -/
  | childOf (id : Ident)
  /-- This element lies directly inside the item. -/
  | parentOf (id : Ident)
  /-- The item lies at some depth inside this element. -/
  | descendantOf (id : Ident)
  /-- This element lies at some depth inside the item. -/
  | ancestorOf (id : Ident)
  /-- The display name matches. -/
  | name (pattern : Pattern)
  /-- The description matches. -/
  | desc (pattern : Pattern)
  /-- The documentation matches. -/
  | doc (pattern : Pattern)

namespace Predicate

/-- The predicates by name. -/
inductive Key where
  | kind | kinds | id | ids | nameSpace | nameSpaces | nameSpacePrefix
  | tech | techs | allTechs | tag | tags | allTags
  | external | isElement | isRelation | maturity | maturities
  | source | target | refersTo | referredBy
  | childOf | parentOf | descendantOf | ancestorOf
  | name | desc | doc
  deriving DecidableEq

/-- The texts under which predicates are written. Reading has a table of its own, which is
`Predicate.read`. -/
instance : Vocabulary Key where
  words := [.kind, .kinds, .id, .ids, .nameSpace, .nameSpaces, .nameSpacePrefix,
    .tech, .techs, .allTechs, .tag, .tags, .allTags,
    .external, .isElement, .isRelation, .maturity, .maturities,
    .source, .target, .refersTo, .referredBy,
    .childOf, .parentOf, .descendantOf, .ancestorOf,
    .name, .desc, .doc]
  spelling
    | .kind => "el"
    | .kinds => "els"
    | .id => "id"
    | .ids => "ids"
    | .nameSpace => "namespace"
    | .nameSpaces => "namespaces"
    | .nameSpacePrefix => "namespace-prefix"
    | .tech => "tech"
    | .techs => "techs"
    | .allTechs => "all-techs"
    | .tag => "tag"
    | .tags => "tags"
    | .allTags => "all-tags"
    | .external => "external?"
    | .isElement => "element?"
    | .isRelation => "relation?"
    | .maturity => "maturity"
    | .maturities => "maturities"
    | .source => "from"
    | .target => "to"
    | .refersTo => "refers-to"
    | .referredBy => "referred-by"
    | .childOf => "child-of"
    | .parentOf => "parent-of"
    | .descendantOf => "descendant-of"
    | .ancestorOf => "ancestor-of"
    | .name => "name"
    | .desc => "desc"
    | .doc => "doc"

/-- The key under which a predicate is written. -/
def key : Predicate → Key
  | kind _ => .kind
  | kinds _ => .kinds
  | id _ => .id
  | ids _ => .ids
  | nameSpace _ => .nameSpace
  | nameSpaces _ => .nameSpaces
  | nameSpacePrefix _ => .nameSpacePrefix
  | tech _ => .tech
  | techs _ => .techs
  | allTechs _ => .allTechs
  | tag _ => .tag
  | tags _ => .tags
  | allTags _ => .allTags
  | external _ => .external
  | isElement _ => .isElement
  | isRelation _ => .isRelation
  | maturity _ => .maturity
  | maturities _ => .maturities
  | source _ => .source
  | target _ => .target
  | refersTo _ => .refersTo
  | referredBy _ => .referredBy
  | childOf _ => .childOf
  | parentOf _ => .parentOf
  | descendantOf _ => .descendantOf
  | ancestorOf _ => .ancestorOf
  | name _ => .name
  | desc _ => .desc
  | doc _ => .doc

end Predicate

/-- A predicate that may be negated. -/
structure Clause where
  /-- The test. -/
  predicate : Predicate
  /-- Whether the test must fail instead. -/
  negated : Bool := false

/-- The mark of a negated clause. -/
def negationMark : String := "!"

/-- The key of a clause, after a mark if it is negated. -/
def Clause.text (clause : Clause) : String :=
  (if clause.negated then negationMark else "") ++ Vocabulary.spelling clause.predicate.key

/-- Clauses that must all hold. -/
structure Conjunction where
  /-- The clauses, in the order in which they are written. -/
  clauses : List Clause := []

namespace Conjunction

/-- Whether nothing is asked for. -/
def isEmpty (conjunction : Conjunction) : Bool :=
  conjunction.clauses.isEmpty

/-- The conjunction with one more clause, in which a predicate must hold. -/
def and (conjunction : Conjunction) (predicate : Predicate) : Conjunction :=
  ⟨conjunction.clauses ++ [⟨predicate, false⟩]⟩

/-- The conjunction with one more clause, in which a predicate must fail. -/
def andNot (conjunction : Conjunction) (predicate : Predicate) : Conjunction :=
  ⟨conjunction.clauses ++ [⟨predicate, true⟩]⟩

/-- The clauses in braces. -/
def text (conjunction : Conjunction) : String :=
  "\x7b" ++ String.intercalate ", " (conjunction.clauses.map Clause.text) ++ "\x7d"

end Conjunction

/-- Which items are wanted. -/
inductive Criteria where
  /-- Those for which all clauses hold. -/
  | all (conjunction : Conjunction)
  /-- Those for which all clauses of one alternative hold. -/
  | anyOf (alternatives : List Conjunction)

namespace Criteria

/-- The conjunctions of which one must hold. -/
def alternatives : Criteria → List Conjunction
  | all conjunction => [conjunction]
  | anyOf alternatives => alternatives

/-- Whether some alternative asks for nothing. -/
def isUnrestricted (criteria : Criteria) : Bool :=
  criteria.alternatives.any Conjunction.isEmpty

/-- A conjunction in braces; alternatives, separated by blanks, in brackets. -/
def text : Criteria → String
  | all conjunction => conjunction.text
  | anyOf alternatives =>
    "[" ++ String.intercalate " " (alternatives.map Conjunction.text) ++ "]"

end Criteria

end Viewpoint
