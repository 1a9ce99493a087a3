import Viewpoint.Content
import Viewpoint.Json.Basic
import Viewpoint.Report.Basic

/-!
# Writing records

How items, layouts, selections and composed views are written in JSON. An absent value and an empty
collection are left out of a record. The fields of an item are those by which it is read, and in
addition its namespace.

* `Item.json` writes an item.
* `Content.json` writes a composed view.
* `Report.json` writes a report.
-/

namespace Viewpoint

/-- The name of something. -/
def Ident.json (id : Ident) : Json :=
  .str id.text

/-- A list of names. -/
def identsJson (ids : List Ident) : Json :=
  .arr (ids.map Ident.json)

/-- The entry of an object for a text, if there is one. -/
def textEntry (key : String) (text : Option String) : List (String × Json) :=
  Json.entry? key (text.map .str)

/-- The entry of an object for a word of a vocabulary, if there is one. -/
def wordEntry {α : Type} [Vocabulary α] (key : String) (word : Option α) : List (String × Json) :=
  textEntry key (word.map Vocabulary.spelling)

/-- The entry of an object for texts, if there are any. -/
def textsEntry (key : String) (texts : List String) : List (String × Json) :=
  if texts.isEmpty then [] else [(key, Json.strings texts)]

namespace Element

/-- The fields of the record of an element. -/
def recordEntries (e : Element) : List (String × Json) :=
  [("id", e.id.json), ("kind", .str e.kind.tag)]
    ++ textEntry "name" e.name
    ++ textEntry "desc" e.desc
    ++ textEntry "doc" e.doc
    ++ textsEntry "tech" e.tech
    ++ textsEntry "tags" e.tags.toList
    ++ wordEntry "maturity" e.maturity
    ++ [("external", .bool e.external), ("namespace", .str e.id.nameSpace)]
    ++ Json.entry? "owner" (e.owner.map Ident.json)

/-- The record of an element. -/
def json (e : Element) : Json :=
  .obj e.recordEntries

end Element

namespace Relation

/-- The fields of the record of a relation. -/
def recordEntries (r : Relation) : List (String × Json) :=
  [("id", r.id.json), ("kind", .str r.kind.tag), ("from", r.source.json), ("to", r.target.json)]
    ++ textEntry "name" r.name
    ++ textEntry "desc" r.desc
    ++ textsEntry "tech" r.tech
    ++ textsEntry "tags" r.tags.toList
    ++ wordEntry "direction" r.direction
    ++ [("namespace", .str r.id.nameSpace)]

/-- The record of a relation. -/
def json (r : Relation) : Json :=
  .obj r.recordEntries

end Relation

namespace Item

/-- The fields of the record of an item. -/
def recordEntries : Item → List (String × Json)
  | element e => e.recordEntries
  | relation r => r.recordEntries

/-- The record of an item. -/
def json (item : Item) : Json :=
  .obj item.recordEntries

/-- What an item is. -/
def category : Item → String
  | element _ => "element"
  | relation _ => "relation"

/-- The declaration of an item: an object that says what is declared. -/
def declarationJson (item : Item) : Json :=
  .obj [(item.category, item.json)]

end Item

/-- The items of a selection. -/
def Selection.json (selection : Selection) : Json :=
  .arr (selection.items.map Item.json)

/-- A map of hints. -/
def HintMap.json (hints : HintMap) : Json :=
  .obj (hints.entries.map fun (name, value) => (name, .str value))

/-- A layout. -/
def Layout.json (layout : Layout) : Json :=
  .obj (wordEntry "direction" layout.direction
    ++ if layout.hints.isEmpty then [] else [("hints", layout.hints.json)])

/-- An entry of an explicit list. Here an empty list of technologies is written too, as it takes the
place of the item's own. -/
def ContentRef.json (ref : ContentRef) : Json :=
  .obj ([("ref", ref.item.json)]
    ++ Json.entry? "order" (ref.order.map .int)
    ++ textEntry "name" ref.name
    ++ textEntry "desc" ref.desc
    ++ Json.entry? "tech" (ref.tech.map Json.strings))

/-- An item at its place in a composed view. -/
def ContentItem.json (item : ContentItem) : Json :=
  .obj ([("index", .int item.index)]
    ++ Json.entry? "order" (item.order.map .int)
    ++ [("category", .str item.item.category)]
    ++ item.item.recordEntries)

namespace Content

/-- The fields of the record of a composed view. -/
def recordEntries (content : Content) : List (String × Json) :=
  [("view", content.view.json), ("kind", .str content.kind.tag)]
    ++ textEntry "title" content.title
    ++ [("layout", content.layout.json), ("items", .arr (content.items.map ContentItem.json)),
      ("warnings", Json.strings (content.warnings.map (·.diagnostic.text)))]

/-- The record of a composed view. -/
def json (content : Content) : Json :=
  .obj content.recordEntries

end Content

/-- What composing a view has led to. A view that failed is written with its fault. -/
def ViewOutcome.json : ViewOutcome → Json
  | .ok content => content.json
  | .error error =>
    .obj [("view", error.view.json), ("error", .str error.diagnostic.text)]

/-- What a report shows, under the name that says what it is. -/
def ReportBody.entry : ReportBody → String × Json
  | selection items => ("selection", items.json)
  | views outcomes => ("views", .arr (outcomes.map ViewOutcome.json))

/-- A report. -/
def Report.json (report : Report) : Json :=
  .obj [("warnings", Json.strings (report.warnings.map (·.diagnostic.text))), report.body.entry]

end Viewpoint
