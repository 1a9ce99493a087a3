import Viewpoint.Adjacency
import Viewpoint.Containment

/-!
# Models

A model is the outcome of building: elements and relations in the order of their declaration, the
containment of the elements and the relations at each of them. Relations with an end that is no
declared element are kept aside and take no part in anything else.

* `Model.item?` looks an item up, `Model.items` lists all of them.
* `Model.inDeclaredOrder` puts items into the order in which results are given.
-/

namespace Viewpoint

/-- An architecture, ready to be asked. -/
structure Model where
  /-- The elements, in the order of their declaration. -/
  elements : List Element
  /-- The relations between declared elements, in the order of their declaration. -/
  relations : List Relation
  /-- The relations with an end that is not declared. -/
  unresolved : List Relation
  /-- All declared identifiers in order, those of unresolved relations included. -/
  declared : List Ident
  /-- Which element lies in which. -/
  containment : Containment
  /-- The relations at each element. -/
  adjacency : Adjacency

namespace Model

/-- The model of nothing. -/
def empty : Model where
  elements := []
  relations := []
  unresolved := []
  declared := []
  containment := ∅
  adjacency := ∅

instance : EmptyCollection Model := ⟨empty⟩

instance : Inhabited Model := ⟨empty⟩

/-- The element of a given name. -/
def element? (model : Model) (id : Ident) : Option Element :=
  model.elements.find? (·.id = id)

/-- The resolved relation of a given name. -/
def relation? (model : Model) (id : Ident) : Option Relation :=
  model.relations.find? (·.id = id)

/-- The item of a given name; unresolved relations are no items. -/
def item? (model : Model) (id : Ident) : Option Item :=
  match model.element? id with
  | some e => some (.element e)
  | none => (model.relation? id).map .relation

/-- Whether an item has the given name. -/
def contains (model : Model) (id : Ident) : Bool :=
  (model.item? id).isSome

/-- All items: the elements and then the resolved relations, each in the order of declaration. -/
def items (model : Model) : List Item :=
  model.elements.map .element ++ model.relations.map .relation

/-- The position of a declared name among all declarations. -/
def declarationIndex (model : Model) (id : Ident) : Option Nat :=
  model.declared.idxOf? id

/-- The relations that start at an element. -/
def relationsFrom (model : Model) (id : Ident) : List Relation :=
  model.adjacency.outgoing.get id

/-- The relations that end at an element. -/
def relationsTo (model : Model) (id : Ident) : List Relation :=
  model.adjacency.incoming.get id

/-- The element that directly holds another. -/
def parent? (model : Model) (id : Ident) : Option Ident :=
  model.containment.parent? id

/-- The elements directly inside an element. -/
def children (model : Model) (id : Ident) : List Ident :=
  model.containment.children id

/-- The elements around an element, the nearest first, and at most as many as there are elements. -/
def ancestors (model : Model) (id : Ident) : List Ident :=
  model.containment.ancestorsWithin model.elements.length id

/-- The elements below an element, each before what it holds, and at most as many as there are
elements. -/
def descendants (model : Model) (id : Ident) : List Ident :=
  model.containment.descendantsWithin model.elements.length id

/-- Whether one element lies, at any depth, inside another. At most as many elements are visited on
the way as there are. -/
def isAncestor (model : Model) (ancestor id : Ident) : Bool :=
  model.containment.isAncestorWithin model.elements.length ancestor id

/-- Whether the declaration of one name does not stand after that of another; names that are not
declared stand first. -/
def declaredNoLater (model : Model) (left right : Ident) : Bool :=
  match model.declarationIndex left, model.declarationIndex right with
  | none, _ => true
  | some _, none => false
  | some i, some j => i ≤ j

/-- Whether an item may stand before another in a result: elements come before relations, and items
of one sort follow their declarations. -/
def mayPrecede (model : Model) (left right : Item) : Bool :=
  match left.isRelation, right.isRelation with
  | false, true => true
  | true, false => false
  | _, _ => model.declaredNoLater left.id right.id

/-- Items in the order in which results are given. -/
def inDeclaredOrder (model : Model) (items : List Item) : List Item :=
  items.mergeSort model.mayPrecede

end Model

end Viewpoint
