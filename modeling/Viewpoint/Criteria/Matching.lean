import Viewpoint.Criteria.Basic
import Viewpoint.IdentSet
import Viewpoint.Model.Basic
import Viewpoint.Notice
import Viewpoint.Settings

/-!
# Matching items

Whether an item meets criteria depends on the item and on the model around it: references are looked
up in the adjacency, containment in the containment.

* `Model.satisfies` says whether an item meets criteria.
* `Model.matching` lists the items that do, and notes criteria that ask for nothing.
-/

namespace Viewpoint

/-- Whether a list of characters occurs within another. -/
def occursWithin (part : List Char) : List Char → Bool
  | [] => part.isEmpty
  | c :: rest => part.isPrefixOf (c :: rest) || occursWithin part rest

/-- Whether a path is another one or lies below it; every path lies below the empty one. -/
def liesBelow (path above : List Char) : Bool :=
  above.isEmpty ||
    (above.isPrefixOf path &&
      match path.drop above.length with
      | [] => true
      | c :: _ => c = pathSeparator)

/-- Whether a pattern occurs in a text that may be absent. -/
def Pattern.matchesIn (pattern : Pattern) (text : Option String) : Bool :=
  text.any pattern.isMatch

namespace Model

/-- Whether an item leads to an element: a relation that ends there, or an element with such a
relation. -/
def leadsTo (model : Model) (item : Item) (id : Ident) : Bool :=
  match item with
  | .element e => (model.relationsFrom e.id).any (·.target = id)
  | .relation r => r.target = id

/-- Whether an item is led to from an element: a relation that starts there, or an element with such
a relation. -/
def ledToFrom (model : Model) (item : Item) (id : Ident) : Bool :=
  match item with
  | .element e => (model.relationsTo e.id).any (·.source = id)
  | .relation r => r.source = id

end Model

/-- Whether a predicate holds of an item of a model. -/
def Predicate.holds (model : Model) (item : Item) : Predicate → Bool
  | kind wanted => item.kindTag = wanted
  | kinds wanted => wanted.any (item.kindTag = ·)
  | id wanted => item.id = wanted
  | ids wanted => wanted.contains item.id
  | nameSpace path => item.nameSpace = path
  | nameSpaces paths => paths.any (item.nameSpace = ·)
  | nameSpacePrefix path => liesBelow item.nameSpace.toList path.toList
  | tech text => item.tech.any fun t => occursWithin text.toList t.toList
  | techs wanted => wanted.any item.tech.contains
  | allTechs wanted => wanted.all item.tech.contains
  | tag wanted => item.hasTag wanted
  | tags wanted => wanted.any item.hasTag
  | allTags wanted => wanted.all item.hasTag
  | external expected => item.isExternal == expected
  | isElement expected => item.isElement == expected
  | isRelation expected => item.isRelation == expected
  | maturity wanted => item.maturity = wanted
  | maturities wanted => wanted.contains item.maturity
  | source wanted => item.relation?.any (·.source = wanted)
  | target wanted => item.relation?.any (·.target = wanted)
  | refersTo other => model.leadsTo item other
  | referredBy other => model.ledToFrom item other
  | childOf other => item.isElement && model.parent? item.id = some other
  | parentOf other => item.isElement && model.parent? other = some item.id
  | descendantOf other => item.isElement && model.isAncestor other item.id
  | ancestorOf other => item.isElement && model.isAncestor item.id other
  | name pattern => pattern.matchesIn item.name
  | desc pattern => pattern.matchesIn item.desc
  | doc pattern => pattern.matchesIn item.doc

/-- Whether a clause holds of an item of a model. -/
def Clause.holds (model : Model) (item : Item) (clause : Clause) : Bool :=
  clause.predicate.holds model item != clause.negated

/-- Whether all clauses hold of an item of a model. -/
def Conjunction.holds (model : Model) (item : Item) (conjunction : Conjunction) : Bool :=
  conjunction.clauses.all (Clause.holds model item)

/-- The record of criteria that ask for nothing. -/
def Criteria.unrestrictedNotice (criteria : Criteria) : Notice where
  fields := [("criteria", criteria.text)]
  message := "Criteria match every item in the model"

namespace Model

/-- Whether an item meets criteria. -/
def satisfies (model : Model) (criteria : Criteria) (item : Item) : Bool :=
  criteria.alternatives.any (Conjunction.holds model item)

/-- The items that meet criteria, in the order of the model. Criteria that ask for nothing are noted
unless the settings say otherwise. -/
def matching (model : Model) (settings : SelectionSettings) (criteria : Criteria) :
    Logged IdentSet := do
  if settings.warnUnrestricted && criteria.isUnrestricted then
    Logged.record [criteria.unrestrictedNotice]
  pure (.ofList ((model.items.filter (model.satisfies criteria)).map Item.id))

end Model

end Viewpoint
