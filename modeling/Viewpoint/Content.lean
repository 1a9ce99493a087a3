import Viewpoint.Item
import Viewpoint.View.Basic
import Viewpoint.View.Fault

/-!
# Content

What a composed view shows: display copies of items in order. A display copy may have another name,
description or list of technologies than the item in the model, which stays as it is.

* `ContentRef.override` makes the display copy of an item.
* `TagFilter.narrow` filters content by tags.
-/

namespace Viewpoint

/-- A display copy of an item, before it has a place. -/
structure Entry where
  /-- The rank that an explicit list gives it. -/
  order : Option Int := none
  /-- The display copy. -/
  item : Item

/-- A display copy of an item at its place. -/
structure ContentItem extends Entry where
  /-- The place. -/
  index : Nat

/-- What a composed view shows. -/
structure Content where
  /-- The name of the view. -/
  view : Ident
  /-- What kind of view it is. -/
  kind : ViewKind
  /-- The title to show. -/
  title : Option String
  /-- How to draw it. -/
  layout : Layout
  /-- The items in order. -/
  items : List ContentItem
  /-- What composing warned about. -/
  warnings : List ViewWarning

namespace Content

/-- The names of the items. -/
def ids (content : Content) : List Ident :=
  content.items.map (·.item.id)

/-- Whether an item of this name is shown. -/
def contains (content : Content) (id : Ident) : Bool :=
  content.items.any (·.item.id = id)

/-- The items without their places. -/
def entries (content : Content) : List Entry :=
  content.items.map ContentItem.toEntry

/-- Content of entries, which are placed in their order. -/
def ofEntries (view : View) (layout : Layout) (entries : List Entry)
    (warnings : List ViewWarning) : Content where
  view := view.id
  kind := view.kind
  title := view.title
  layout := layout
  items := entries.mapIdx fun index entry => { entry with index }
  warnings := warnings

end Content

/-- The display copy of an item, with what the list entry says instead of the item's own. -/
def ContentRef.override (ref : ContentRef) : Item → Item
  | .element e => .element
    { e with
      name := ref.name.or e.name
      desc := ref.desc.or e.desc
      tech := ref.tech.getD e.tech }
  | .relation r => .relation
    { r with
      name := ref.name.or r.name
      desc := ref.desc.or r.desc
      tech := ref.tech.getD r.tech }

namespace TagFilter

/-- Whether a filter lets an item pass by its tags. -/
def passes (filter : TagFilter) (item : Item) : Bool :=
  match filter.mode with
  | .keep => filter.tags.any item.hasTag
  | .drop => !filter.tags.any item.hasTag

/-- The elements that a filter takes out. -/
def lostElements (filter : TagFilter) (entries : List Entry) : List Ident :=
  (entries.filter fun entry => entry.item.isElement && !filter.passes entry.item).map (·.item.id)

/-- The entries that pass a filter. Where dangling relations are pruned, those that lose an end to
the filter are left out too. -/
def narrow (filter : TagFilter) (prune : Bool) (entries : List Entry) : List Entry :=
  let lost := if prune then filter.lostElements entries else []
  entries.filter fun entry =>
    filter.passes entry.item &&
      match entry.item with
      | .element _ => true
      | .relation r => !lost.contains r.source && !lost.contains r.target

end TagFilter

end Viewpoint
