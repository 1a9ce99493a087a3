import Viewpoint.Document
import Viewpoint.Json.Decoder
import Viewpoint.Json.Reader
import Viewpoint.Settings

/-!
# Reading records

How sources, views, criteria and settings are written in JSON: the names of their fields, which of
them may be missing or null, and what they hold.

* `Document.decoder` reads a whole document, `Source.decoder` and `ViewDecl.decoder` its parts.
* `CriteriaDecl.decoder` reads criteria, `Settings.decoder` reads settings.
-/

namespace Viewpoint

/-- The name of something. -/
def Ident.decoder : Decoder Ident :=
  Decoder.text.map Ident.mk

/-- A list of texts. -/
def textList : Decoder (List String) :=
  Decoder.list Decoder.text

namespace RawElement

/-- The fields of an element that may enclose others. -/
def fields : List Field :=
  [⟨"id", []⟩, ⟨"kind", ["el"]⟩, ⟨"name", []⟩, ⟨"desc", []⟩, ⟨"doc", []⟩, ⟨"tech", []⟩,
    ⟨"tags", []⟩, ⟨"maturity", []⟩, ⟨"external", ["external?"]⟩, ⟨"owner", []⟩,
    ⟨"children", ["ct"]⟩]

/-- The element that a record writes. -/
def ofRecord? (record : Record) : Option RawElement := do
  let id ← record.required "id" Decoder.text
  let kind ← record.required "kind" (Decoder.text.map ElementKind.ofTag)
  let name ← record.get? "name" Decoder.text
  let desc ← record.get? "desc" Decoder.text
  let doc ← record.get? "doc" Decoder.text
  let tech ← record.getD "tech" textList []
  let tags ← record.getD "tags" textList []
  let maturity ← record.get? "maturity" Decoder.word
  let external ← record.getD "external" Decoder.flag false
  let owner ← record.get? "owner" Decoder.text
  pure { id, kind, name, desc, doc, tech, tags, maturity, external, owner }

end RawElement

namespace ElementTree

/-- An element with the elements it encloses, which are read by a given decoder. -/
def decoderWith (children : Decoder ElementTree) : Decoder ElementTree :=
  fun levels json => do
    let record ← Decoder.record RawElement.fields levels json
    let raw ← RawElement.ofRecord? record
    let children ← record.getD "children" children.list []
    pure (node raw children)

/-- An element with the elements it encloses. -/
def decoder : Decoder ElementTree :=
  Decoder.nested decoderWith

end ElementTree

namespace RawRelation

/-- The fields of a relation. -/
def fields : List Field :=
  [⟨"id", []⟩, ⟨"kind", ["el"]⟩, ⟨"from", []⟩, ⟨"to", []⟩, ⟨"name", []⟩, ⟨"desc", []⟩,
    ⟨"tech", []⟩, ⟨"tags", []⟩, ⟨"direction", []⟩]

/-- The relation that a record writes. -/
def ofRecord? (record : Record) : Option RawRelation := do
  let id ← record.required "id" Decoder.text
  let kind ← record.required "kind" (Decoder.text.map RelationKind.ofTag)
  let source ← record.required "from" Decoder.text
  let target ← record.required "to" Decoder.text
  let name ← record.get? "name" Decoder.text
  let desc ← record.get? "desc" Decoder.text
  let tech ← record.getD "tech" textList []
  let tags ← record.getD "tags" textList []
  let direction ← record.get? "direction" Decoder.word
  pure { id, kind, source, target, name, desc, tech, tags, direction }

/-- A relation. -/
def decoder : Decoder RawRelation :=
  fun levels json => (Decoder.record fields levels json).bind ofRecord?

end RawRelation

/-- A declaration: an object that says what is declared. -/
def Decl.decoder : Decoder Decl :=
  Decoder.tagged
    [("element", ElementTree.decoder.map element), ("relation", RawRelation.decoder.map relation)]

/-- A source of declarations. -/
def Source.decoder : Decoder Source :=
  fun levels json => do
    let record ← Decoder.record [⟨"name", []⟩, ⟨"decls", []⟩] levels json
    let name ← record.getD "name" Decoder.text ""
    let decls ← record.getD "decls" Decl.decoder.list []
    pure { name, decls }

/-- A map of hints; of repeated names the last one counts. -/
def HintMap.decoder : Decoder HintMap :=
  (Decoder.entries Decoder.text).map HintMap.ofList

/-- A layout. -/
def Layout.decoder : Decoder Layout :=
  fun levels json => do
    let record ← Decoder.record [⟨"direction", []⟩, ⟨"hints", []⟩] levels json
    let direction ← record.get? "direction" Decoder.word
    let hints ← record.getD "hints" HintMap.decoder ∅
    pure { direction, hints }

/-- An entry of an explicit list. -/
def ContentRef.decoder : Decoder ContentRef :=
  fun levels json => do
    let record ← Decoder.record
      [⟨"ref", []⟩, ⟨"order", []⟩, ⟨"name", []⟩, ⟨"desc", []⟩, ⟨"tech", []⟩] levels json
    let item ← record.required "ref" Ident.decoder
    let order ← record.get? "order" Decoder.integer
    let name ← record.get? "name" Decoder.text
    let desc ← record.get? "desc" Decoder.text
    let tech ← record.get? "tech" textList
    pure { item, order, name, desc, tech }

/-- The value of a clause. -/
def ClauseValue.decoder : Decoder ClauseValue
  | _, .bool value => some (flag value)
  | _, .str value => some (text value)
  | levels, json => (textList levels json).map list

namespace CriteriaDecl

/-- Puts a clause behind others, or instead of the one that has its key already. -/
def putClause (clauses : List ClauseDecl) (clause : ClauseDecl) : List ClauseDecl :=
  if clauses.any (·.key = clause.key) then
    clauses.map fun earlier => if earlier.key = clause.key then clause else earlier
  else clauses ++ [clause]

/-- Putting a clause keeps the keys in their places and adds a key only if it is new. -/
theorem map_key_putClause (clauses : List ClauseDecl) (clause : ClauseDecl) :
    (putClause clauses clause).map ClauseDecl.key =
      clauses.map ClauseDecl.key
        ++ if clauses.any (·.key = clause.key) then [] else [clause.key] := by
  unfold putClause
  split
  · rw [List.append_nil, List.map_map]
    refine List.map_congr_left fun earlier _ => ?_
    simp only [Function.comp_apply]
    split
    · next h => exact h.symm
    · rfl
  · simp

/-- The clauses of a map. A repeated key keeps its first place and takes its last value. -/
def clauseMap : Decoder (List ClauseDecl) :=
  (Decoder.entries ClauseValue.decoder).map fun entries =>
    entries.foldl (fun clauses entry => putClause clauses ⟨entry.1, entry.2⟩) []

/-- Criteria: a map, or a list of maps. -/
def decoder : Decoder CriteriaDecl
  | levels, .arr items => (clauseMap.list levels (.arr items)).map anyOf
  | levels, json => (clauseMap levels json).map all

end CriteriaDecl

/-- A view as written. -/
def ViewDecl.decoder : Decoder ViewDecl :=
  fun levels json => do
    let record ← Decoder.record
      [⟨"id", []⟩, ⟨"kind", []⟩, ⟨"title", []⟩, ⟨"layout", []⟩, ⟨"selection", []⟩,
        ⟨"include", []⟩, ⟨"exclude", []⟩, ⟨"content", ["ct"]⟩, ⟨"base", ["base-view"]⟩,
        ⟨"mode", []⟩, ⟨"tags", []⟩] levels json
    let id ← record.required "id" Ident.decoder
    let kind ← record.required "kind" (Decoder.text.map ViewKind.ofTag)
    let title ← record.get? "title" Decoder.text
    let layout ← record.getD "layout" Layout.decoder {}
    let selection ← record.get? "selection" CriteriaDecl.decoder
    let flags ← record.getD "include" (Decoder.list Decoder.word) []
    let exclude ← record.get? "exclude" CriteriaDecl.decoder
    let content ← record.get? "content" ContentRef.decoder.list
    let base ← record.get? "base" Ident.decoder
    let mode ← record.get? "mode" Decoder.word
    let tags ← record.getD "tags" textList []
    pure { id, kind, title, layout, selection, flags, exclude, content, base, mode, tags }

/-- A document, which has no other fields. -/
def Document.decoder : Decoder Document :=
  fun levels json => do
    let record ← Decoder.strictRecord [⟨"sources", []⟩, ⟨"views", []⟩] levels json
    let sources ← record.getD "sources" Source.decoder.list []
    let views ← record.getD "views" ViewDecl.decoder.list []
    pure { sources, views }

/-- The choices about selecting items. -/
def SelectionSettings.decoder : Decoder SelectionSettings :=
  fun levels json => do
    let record ← Decoder.record [⟨"warn_unrestricted", []⟩] levels json
    let warnUnrestricted ← record.getD "warn_unrestricted" Decoder.flag true
    pure { warnUnrestricted }

/-- The choices about composing views. -/
def ComposeSettings.decoder : Decoder ComposeSettings :=
  fun levels json => do
    let record ← Decoder.record
      [⟨"parallel", []⟩, ⟨"prune_dangling_relations", []⟩] levels json
    let parallel ← record.getD "parallel" Decoder.flag true
    let pruneDanglingRelations ← record.getD "prune_dangling_relations" Decoder.flag true
    pure { parallel, pruneDanglingRelations }

/-- All choices. -/
def Settings.decoder : Decoder Settings :=
  fun levels json => do
    let record ← Decoder.record [⟨"selection", []⟩, ⟨"compose", []⟩] levels json
    let selection ← record.getD "selection" SelectionSettings.decoder {}
    let compose ← record.getD "compose" ComposeSettings.decoder {}
    pure { selection, compose }

/-- Decodes a value that is written as a text. -/
def Decoder.ofText? {α : Type} (decoder : Decoder α) (text : String) : Option α :=
  (Json.read? text).bind (Json.decode? decoder)

end Viewpoint
