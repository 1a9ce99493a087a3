import Viewpoint.Content
import Viewpoint.Selection
import Viewpoint.View.Set

/-!
# Composition

Composing a view turns it into the content that it shows. The three bodies are composed in three
ways; a filtered view composes its base first and fails with it. Views do not affect one another
beyond their base chains.

* `ViewSet.compose` composes one view, `ViewSet.composeAll` all of them.
* `BaseChain.compose` composes along a base chain.
-/

namespace Viewpoint

namespace Model

/-- The items of a selection body, without those to exclude, in the order in which results are
given. -/
def selectedEntries (model : Model) (settings : SelectionSettings) (criteria : Criteria)
    (flags : List IncludeFlag) (exclude : Option Criteria) : Logged (List Entry) := do
  let matched ← model.matching settings criteria
  let items := (model.expand matched flags).toList.filterMap model.item?
  let kept := items.filter fun item => !exclude.any (model.satisfies · item)
  pure ((model.inDeclaredOrder kept).map fun item => { item })

/-- The entries of a list that name an item of the model, each item at its first entry. -/
def knownRefs (model : Model) (seen : List Ident) : List ContentRef → List ContentRef
  | [] => []
  | ref :: rest =>
    if model.contains ref.item && !seen.contains ref.item then
      ref :: model.knownRefs (ref.item :: seen) rest
    else model.knownRefs seen rest

/-- The display copy that an entry of a list asks for. -/
def entryOfRef? (model : Model) (ref : ContentRef) : Option Entry :=
  (model.item? ref.item).map fun item => ⟨ref.order, ref.override item⟩

/-- The entries of an explicit body. They are sorted by their orders if all of them have one, and
entries of equal order stay in list order. -/
def listedEntries (model : Model) (content : List ContentRef) : List Entry :=
  let entries := (model.knownRefs [] content).filterMap model.entryOfRef?
  if entries.all (·.order.isSome) then
    entries.mergeSort fun a b => a.order.getD 0 ≤ b.order.getD 0
  else entries

/-- What composing an explicit body warns about: unknown items, and orders on some entries only. -/
def listWarnings (model : Model) (view : Ident) (content : List ContentRef) : List ViewWarning :=
  let unknown := content.filter fun ref => !model.contains ref.item
  let known := model.knownRefs [] content
  let mixed := known.any (·.order.isSome) && known.any (·.order.isNone)
  unknown.map (fun ref => .unknownItem view ref.item)
    ++ if mixed then [.mixedOrder view] else []

/-- The entries that a view has without a base, and the warnings about them. A filtered view has no
entries of its own. -/
def ownEntries (model : Model) (settings : SelectionSettings) (view : View) :
    Logged (List Entry × List ViewWarning) :=
  match view.body with
  | .selection criteria flags exclude => do
    let entries ← model.selectedEntries settings criteria flags exclude
    pure (entries, [])
  | .explicit content =>
    pure (model.listedEntries content, model.listWarnings view.id content)
  | .filtered .. => pure ([], [])

end Model

/-- The first element among entries whose kind is a modeled one. -/
def firstModeledElement (entries : List Entry) : Option Ident :=
  entries.findSome? fun entry =>
    entry.item.element?.bind fun e => if e.kind.isCustom then none else some e.id

/-- The content of a view with its entries. A custom view must not show elements of modeled kinds; a
view without entries is warned about. All warnings are noted. -/
def finishContent (view : View) (layout : Layout) (entries : List Entry)
    (warnings : List ViewWarning) : Logged (Except ViewError Content) :=
  let offender :=
    if view.kind = .modeled .custom then firstModeledElement entries else none
  match offender with
  | some element => pure (.error (.invalid view.id (.nonCustomElement element)))
  | none => do
    let warnings := if entries.isEmpty then warnings ++ [.emptyContent view.id] else warnings
    Logged.record (warnings.map (ViewWarning.notice view.id))
    pure (.ok (.ofEntries view layout entries warnings))

/-- The failure of a view whose base failed. A circle of bases is a fault of every view that leads
into it; any other fault is that of the base. -/
def ViewError.ofBase (view base : Ident) : ViewError → ViewError
  | invalid _ (.cyclicBase path) => .invalid view (.cyclicBase path)
  | _ => .invalid view (.baseFailed base)

namespace BaseChain

/-- Composes the view at the start of a chain, from the end of the chain on. -/
def compose (model : Model) (settings : Settings) : BaseChain → Logged (Except ViewError Content)
  | root view => do
    let (entries, warnings) ← model.ownEntries settings.selection view
    finishContent view view.layout entries warnings
  | missing view base => pure (.error (.invalid view.id (.missingBase base)))
  | cycle view path => pure (.error (.invalid view.id (.cyclicBase path)))
  | filtered view filter base => do
    match ← base.compose model settings with
    | .error error => pure (.error (error.ofBase view.id base.view.id))
    | .ok content =>
      finishContent view (view.layout.inherit content.layout)
        (filter.narrow settings.compose.pruneDanglingRelations content.entries) []

end BaseChain

namespace ViewSet

/-- Composes a view of a set. -/
def composeView (set : ViewSet) (model : Model) (settings : Settings) (view : View) :
    Logged (Except ViewError Content) :=
  (set.chain view).compose model settings

/-- Composes the view with a name. -/
def compose (set : ViewSet) (model : Model) (settings : Settings) (id : Ident) :
    Logged (Except ViewError Content) :=
  match set.find? id with
  | none => pure (.error (.notFound id))
  | some view => set.composeView model settings view

/-- Composes all views, each on its own. -/
def composeAll (set : ViewSet) (model : Model) (settings : Settings) :
    Logged (List (Except ViewError Content)) :=
  set.views.mapM (set.composeView model settings)

end ViewSet

end Viewpoint
