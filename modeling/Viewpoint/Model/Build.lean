import Viewpoint.Declaration
import Viewpoint.Model.Basic
import Viewpoint.Model.Fault

/-!
# Building a model

The flattened declarations of all sources are merged in order; elements and relations share one
space of names. Then references are resolved: first the owners of the elements, then the ends of the
relations. Owners and containment relations place elements inside one another, and the placement
made first is kept. A containment that runs in a circle is refused.

* `Model.build` builds the model of a list of sources.
* `merge` is the merging of declarations, `Model.ofItems` the rest of the work.
-/

namespace Viewpoint

/-- An item with the place of its declaration. -/
structure Sited where
  /-- The declared item. -/
  item : Item
  /-- Where it is declared. -/
  site : Site

/-- The flattened declarations of a source with their places. -/
def Source.sited (source : Source) (index : Nat) : List Sited :=
  source.items.mapIdx fun position item => ⟨item, ⟨source.name, index, position⟩⟩

/-- Adds declarations one by one and refuses the first whose name is taken. -/
def addDistinct (merged : List Sited) : List Sited → Except BuildError (List Sited)
  | [] => .ok merged
  | next :: rest =>
    match merged.find? (·.item.id = next.item.id) with
    | some first => .error (.duplicateId next.item.id first.site next.site)
    | none => addDistinct (merged ++ [next]) rest

/-- Merges sources one after the other. Each source is flattened as a whole before its declarations
are added, so what flattening notes is noted even when one of them is refused. -/
def merge (merged : List Sited) : List (Source × Nat) → Logged (Except BuildError (List Sited))
  | [] => pure (.ok merged)
  | (source, index) :: rest => do
    Logged.record source.notices
    match addDistinct merged (source.sited index) with
    | .error error => pure (.error error)
    | .ok merged => merge merged rest

/-- What resolving references has found so far. -/
structure Resolution where
  /-- The placements made so far. -/
  containment : Containment := ∅
  /-- The warnings so far, in order. -/
  warnings : List BuildWarning := []

namespace Resolution

/-- Notes one more warning. -/
def warn (resolution : Resolution) (warning : BuildWarning) : Resolution :=
  { resolution with warnings := resolution.warnings ++ [warning] }

/-- Places an element, with a warning if it already lies elsewhere. -/
def place (resolution : Resolution) (child parent : Ident) : Resolution :=
  match resolution.containment.assign child parent with
  | .ok containment => { resolution with containment }
  | .error kept => resolution.warn (.conflictingParent child kept parent)

/-- Places an element in its owner, with a warning if the owner is not declared. -/
def addOwner (known : Ident → Bool) (resolution : Resolution) (element : Element) : Resolution :=
  match element.owner with
  | none => resolution
  | some owner =>
    if known owner then resolution.place element.id owner
    else resolution.warn (.unresolved element.id .owner owner)

/-- Warns of the ends of a relation that are not declared. When both are, a containment relation
places its source in its target. -/
def addRelation (known : Ident → Bool) (resolution : Resolution) (relation : Relation) :
    Resolution :=
  match known relation.source, known relation.target with
  | true, true =>
    if relation.kind.isContainment then resolution.place relation.source relation.target
    else resolution
  | false, true => resolution.warn (.unresolved relation.id .source relation.source)
  | true, false => resolution.warn (.unresolved relation.id .target relation.target)
  | false, false =>
    (resolution.warn (.unresolved relation.id .source relation.source)).warn
      (.unresolved relation.id .target relation.target)

end Resolution

/-- The element without an owner that is not declared. -/
def Element.resolveOwner (known : Ident → Bool) (element : Element) : Element :=
  { element with owner := element.owner.filter known }

/-- Whether both ends of a relation are declared. -/
def Relation.isResolved (known : Ident → Bool) (relation : Relation) : Bool :=
  known relation.source && known relation.target

/-- A model together with what building it warned about. -/
structure Built where
  /-- The model. -/
  model : Model
  /-- The warnings, in order. -/
  warnings : List BuildWarning

namespace Model

/-- The model of items with distinct names. -/
def ofItems (items : List Item) : Except BuildError Built :=
  let elements := items.filterMap Item.element?
  let relations := items.filterMap Item.relation?
  let known := fun id => elements.any (·.id = id)
  let owned := elements.foldl (Resolution.addOwner known) {}
  let resolution := relations.foldl (Resolution.addRelation known) owned
  match resolution.containment.findCycle (elements.map Element.id) with
  | some path => .error (.containmentCycle path)
  | none =>
    let resolved := relations.filter (Relation.isResolved known)
    .ok
      { model :=
          { elements := elements.map (Element.resolveOwner known)
            relations := resolved
            unresolved := relations.filter fun r => !r.isResolved known
            declared := items.map Item.id
            containment := resolution.containment
            adjacency := Adjacency.ofRelations resolved }
        warnings := resolution.warnings }

/-- The model of a list of sources. The warnings are also noted, once the model is complete. -/
def build (sources : List Source) : Logged (Except BuildError Built) := do
  match ← merge [] sources.zipIdx with
  | .error error => pure (.error error)
  | .ok merged =>
    match ofItems (merged.map Sited.item) with
    | .error error => pure (.error error)
    | .ok built => do
      Logged.record (built.warnings.map BuildWarning.notice)
      pure (.ok built)

end Model

end Viewpoint
