import Viewpoint.Ident
import Viewpoint.Kind
import Viewpoint.TagSet

/-!
# Items

An architecture consists of elements and of relations between them. `Item` is either of the two; it
is what sources declare, what criteria test and what views show.
-/

namespace Viewpoint

/-- A part of the architecture: a person, a system, a component and so on. -/
structure Element where
  /-- The name under which the element is declared. -/
  id : Ident
  /-- What the element is. -/
  kind : ElementKind
  /-- The display name. -/
  name : Option String := none
  /-- A short description. -/
  desc : Option String := none
  /-- Longer documentation. -/
  doc : Option String := none
  /-- The technologies it is made with, as listed. -/
  tech : List String := []
  /-- The tags it carries. -/
  tags : TagSet := ∅
  /-- How settled it is, unless it is established. -/
  maturity : Option Maturity := none
  /-- Whether it is marked as lying outside the architecture. -/
  external : Bool := false
  /-- The element that it belongs to. -/
  owner : Option Ident := none
  deriving DecidableEq

/-- A directed connection from one element to another. -/
structure Relation where
  /-- The name under which the relation is declared. -/
  id : Ident
  /-- What the relation is. -/
  kind : RelationKind
  /-- The element where the relation starts. -/
  source : Ident
  /-- The element where the relation ends. -/
  target : Ident
  /-- The display name. -/
  name : Option String := none
  /-- A short description. -/
  desc : Option String := none
  /-- The technologies it is made with, as listed. -/
  tech : List String := []
  /-- The tags it carries. -/
  tags : TagSet := ∅
  /-- Where it should be drawn. -/
  direction : Option Direction := none
  deriving DecidableEq

/-- Whether a relation starts or ends at an element. -/
def Relation.touches (relation : Relation) (id : Ident) : Bool :=
  relation.source = id || relation.target = id

/-- An element or a relation. -/
inductive Item where
  | element (element : Element)
  | relation (relation : Relation)
  deriving DecidableEq

/-- The tag that marks an item as external, beside the flag of an element. -/
def externalTag : String := "external"

namespace Item

/-- The name under which the item is declared. -/
def id : Item → Ident
  | element e => e.id
  | relation r => r.id

/-- The tag of the item's kind. -/
def kindTag : Item → String
  | element e => e.kind.tag
  | relation r => r.kind.tag

/-- The element that the item is, if it is one. -/
def element? : Item → Option Element
  | element e => some e
  | relation _ => none

/-- The relation that the item is, if it is one. -/
def relation? : Item → Option Relation
  | element _ => none
  | relation r => some r

/-- Whether the item is an element. -/
def isElement : Item → Bool
  | element _ => true
  | relation _ => false

/-- Whether the item is a relation. -/
def isRelation (item : Item) : Bool :=
  !item.isElement

/-- The display name. -/
def name : Item → Option String
  | element e => e.name
  | relation r => r.name

/-- The short description. -/
def desc : Item → Option String
  | element e => e.desc
  | relation r => r.desc

/-- The documentation; relations have none. -/
def doc : Item → Option String
  | element e => e.doc
  | relation _ => none

/-- The technologies, as listed. -/
def tech : Item → List String
  | element e => e.tech
  | relation r => r.tech

/-- The tags. -/
def tags : Item → TagSet
  | element e => e.tags
  | relation r => r.tags

/-- Whether the item carries a tag. -/
def hasTag (item : Item) (tag : String) : Bool :=
  item.tags.contains tag

/-- The namespace of the item's name. -/
def nameSpace (item : Item) : String :=
  item.id.nameSpace

/-- The maturity; relations have none. -/
def maturity : Item → Option Maturity
  | element e => e.maturity
  | relation _ => none

/-- Whether the item lies outside the architecture, by its flag or by its tag. -/
def isExternal : Item → Bool
  | element e => e.external || e.tags.contains externalTag
  | relation r => r.tags.contains externalTag

end Item

end Viewpoint
