import Viewpoint.Item
import Viewpoint.Notice

/-!
# Declarations

A source declares elements and relations in order. An element may enclose further elements, which it
then owns. Flattening a source lists its items in the order in which they are written: an element
stands before the elements it encloses.

* `RawElement` and `RawRelation` are the records that a source writes, `RawElement.toElement` and
  `RawRelation.toRelation` make items of them.
* `Source.items` are the flattened declarations.
* `Source.notices` tells of enclosed elements that declare another owner than the enclosing one.
* `ElementTree.unfold_node` gives one step of the flattening.
-/

namespace Viewpoint

/-- An element as it is written, without the elements that it encloses. -/
structure RawElement where
  /-- The name of the element. -/
  id : String
  /-- What the element is. -/
  kind : ElementKind
  /-- The display name. -/
  name : Option String := none
  /-- A short description. -/
  desc : Option String := none
  /-- Longer documentation. -/
  doc : Option String := none
  /-- The technologies, as listed. -/
  tech : List String := []
  /-- The tags, as listed. -/
  tags : List String := []
  /-- How settled it is, unless it is established. -/
  maturity : Option Maturity := none
  /-- Whether it is marked as lying outside the architecture. -/
  external : Bool := false
  /-- The name of the element that it is said to belong to. -/
  owner : Option String := none
  deriving DecidableEq

/-- A relation as it is written. -/
structure RawRelation where
  /-- The name of the relation. -/
  id : String
  /-- What the relation is. -/
  kind : RelationKind
  /-- The name of the element where the relation starts. -/
  source : String
  /-- The name of the element where the relation ends. -/
  target : String
  /-- The display name. -/
  name : Option String := none
  /-- A short description. -/
  desc : Option String := none
  /-- The technologies, as listed. -/
  tech : List String := []
  /-- The tags, as listed. -/
  tags : List String := []
  /-- Where it should be drawn. -/
  direction : Option Direction := none
  deriving DecidableEq

namespace RawElement

/-- The owner that the element declares. -/
def declaredOwner? (raw : RawElement) : Option Ident :=
  raw.owner.map Ident.mk

/-- The element with a given owner. A text that is not written is not set. -/
def toElement (raw : RawElement) (owner : Option Ident) : Element :=
  let plain : Element :=
    { id := ⟨raw.id⟩, kind := raw.kind, tech := raw.tech, tags := .ofList raw.tags,
      maturity := raw.maturity, external := raw.external, owner }
  let named := raw.name.elim plain fun name => { plain with name := some name }
  let described := raw.desc.elim named fun desc => { named with desc := some desc }
  raw.doc.elim described fun doc => { described with doc := some doc }

/-- Every field of the element is as written, but for its owner. -/
theorem toElement_eq (raw : RawElement) (owner : Option Ident) : raw.toElement owner =
    { id := ⟨raw.id⟩, kind := raw.kind, name := raw.name, desc := raw.desc, doc := raw.doc,
      tech := raw.tech, tags := .ofList raw.tags, maturity := raw.maturity,
      external := raw.external, owner } := by
  obtain ⟨id, kind, name, desc, doc, tech, tags, maturity, external, declared⟩ := raw
  cases name <;> cases desc <;> cases doc <;> rfl

@[simp]
theorem toElement_id (raw : RawElement) (owner : Option Ident) :
    (raw.toElement owner).id = ⟨raw.id⟩ := by
  rw [toElement_eq]

@[simp]
theorem toElement_kind (raw : RawElement) (owner : Option Ident) :
    (raw.toElement owner).kind = raw.kind := by
  rw [toElement_eq]

@[simp]
theorem toElement_owner (raw : RawElement) (owner : Option Ident) :
    (raw.toElement owner).owner = owner := by
  rw [toElement_eq]

end RawElement

namespace RawRelation

/-- The relation. A text that is not written is not set. -/
def toRelation (raw : RawRelation) : Relation :=
  let plain : Relation :=
    { id := ⟨raw.id⟩, kind := raw.kind, source := ⟨raw.source⟩, target := ⟨raw.target⟩,
      tech := raw.tech, tags := .ofList raw.tags, direction := raw.direction }
  let named := raw.name.elim plain fun name => { plain with name := some name }
  raw.desc.elim named fun desc => { named with desc := some desc }

/-- Every field of the relation is as written. -/
theorem toRelation_eq (raw : RawRelation) : raw.toRelation =
    { id := ⟨raw.id⟩, kind := raw.kind, source := ⟨raw.source⟩, target := ⟨raw.target⟩,
      name := raw.name, desc := raw.desc, tech := raw.tech, tags := .ofList raw.tags,
      direction := raw.direction } := by
  obtain ⟨id, kind, source, target, name, desc, tech, tags, direction⟩ := raw
  cases name <;> cases desc <;> rfl

@[simp]
theorem toRelation_id (raw : RawRelation) : raw.toRelation.id = ⟨raw.id⟩ := by
  rw [toRelation_eq]

end RawRelation

/-- A written element with the elements that it encloses. -/
inductive ElementTree where
  | node (raw : RawElement) (children : List ElementTree)

/-- A declaration at the top level of a source. -/
inductive Decl where
  | element (tree : ElementTree)
  | relation (raw : RawRelation)

/-- An ordered group of declarations of one origin. -/
structure Source where
  /-- What the origin is called; the empty name stands for an unnamed one. -/
  name : String := ""
  /-- The declarations, in order. -/
  decls : List Decl := []
  deriving Inhabited

/-- An item as it was written, with the element that directly encloses it. -/
inductive Declared where
  | element (enclosing : Option Ident) (raw : RawElement)
  | relation (raw : RawRelation)

/-- An enclosed element that declares another owner than the element around it. -/
structure OwnerOverride where
  /-- The enclosed element. -/
  element : Ident
  /-- The owner it declares. -/
  declared : Ident
  /-- The owner it gets. -/
  enclosing : Ident
  deriving DecidableEq

/-- The record of an overridden owner. -/
def OwnerOverride.notice (override : OwnerOverride) : Notice where
  fields := [("element", override.element.text), ("declared_owner", override.declared.text),
    ("enclosing", override.enclosing.text)]
  message := "Nested element declares a different owner, using the enclosing element"

namespace ElementTree

mutual

/-- An element and then everything it encloses, each with the element directly around it. -/
def unfold (enclosing : Option Ident) : ElementTree → List Declared
  | node raw children => .element enclosing raw :: unfoldAll (some ⟨raw.id⟩) children

/-- The elements of several trees that stand side by side. -/
def unfoldAll (enclosing : Option Ident) : List ElementTree → List Declared
  | [] => []
  | tree :: trees => unfold enclosing tree ++ unfoldAll enclosing trees

end

/-- An element stands before the elements it encloses. -/
theorem unfold_node (enclosing : Option Ident) (raw : RawElement) (children : List ElementTree) :
    unfold enclosing (node raw children) =
      .element enclosing raw :: children.flatMap (unfold (some ⟨raw.id⟩)) := by
  rw [unfold]
  congr 1
  induction children with
  | nil => rfl
  | cons tree trees ih => rw [unfoldAll, ih, List.flatMap_cons]

end ElementTree

/-- The items that a top-level declaration writes, in order. -/
def Decl.unfold : Decl → List Declared
  | element tree => tree.unfold none
  | relation raw => [.relation raw]

namespace Declared

/-- The item that is declared: an enclosed element is owned by the element around it, and another
one by the owner that it declares. -/
def item : Declared → Item
  | element none raw => .element (raw.toElement raw.declaredOwner?)
  | element (some enclosing) raw => .element (raw.toElement (some enclosing))
  | relation raw => .relation raw.toRelation

/-- The owner that the enclosing element takes the place of, if it is another one. -/
def override? : Declared → Option OwnerOverride
  | element (some enclosing) raw =>
    raw.declaredOwner?.bind fun declared =>
      if declared = enclosing then none else some ⟨⟨raw.id⟩, declared, enclosing⟩
  | _ => none

end Declared

namespace Source

/-- The declared items in the order in which they are written. -/
def unfold (source : Source) : List Declared :=
  source.decls.flatMap Decl.unfold

/-- The flattened declarations of a source. -/
def items (source : Source) : List Item :=
  source.unfold.map Declared.item

/-- The owners that enclosing elements take the place of, in order. -/
def overrides (source : Source) : List OwnerOverride :=
  source.unfold.filterMap Declared.override?

/-- What flattening the source notes. -/
def notices (source : Source) : List Notice :=
  source.overrides.map OwnerOverride.notice

end Source

end Viewpoint
