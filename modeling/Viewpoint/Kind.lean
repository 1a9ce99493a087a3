import Viewpoint.Vocabulary

/-!
# Kinds and small vocabularies

The kind of an element, a relation or a view is a tag. The tags of the three vocabularies below are
modeled; any other tag is kept as it is spelled, so selection by kind works for every tag.

* `ElementKind.tag_ofTag`, `RelationKind.tag_ofTag` and `ViewKind.tag_ofTag` say that a kind keeps
  the spelling that it was read from.
* `Maturity` and `Direction` are closed: other texts are refused.
* `ViewKind.ofTag_eq` and `Maturity.ofText?_eq` say that what is read by a table of its own is read
  as it is written.
-/

namespace Viewpoint

/-- The element tags that have a meaning of their own. -/
inductive ElementTag where
  | person | system | container | component | node | actor | useCase | classifier | interface
  | protocol | enumeration | state | transition | concept | orgUnit | capability | process
  deriving DecidableEq

instance : Vocabulary ElementTag where
  words := [.person, .system, .container, .component, .node, .actor, .useCase, .classifier,
    .interface, .protocol, .enumeration, .state, .transition, .concept, .orgUnit, .capability,
    .process]
  spelling
    | .person => "person"
    | .system => "system"
    | .container => "container"
    | .component => "component"
    | .node => "node"
    | .actor => "actor"
    | .useCase => "use-case"
    | .classifier => "class"
    | .interface => "interface"
    | .protocol => "protocol"
    | .enumeration => "enum"
    | .state => "state"
    | .transition => "transition"
    | .concept => "concept"
    | .orgUnit => "org-unit"
    | .capability => "capability"
    | .process => "process"

/-- The kind of an element: a modeled tag, or any other tag as it is spelled. -/
inductive ElementKind where
  | modeled (word : ElementTag)
  | custom (tag : String)
  deriving DecidableEq

namespace ElementKind

/-- The kind that a tag names. -/
def ofTag (tag : String) : ElementKind :=
  match Vocabulary.ofSpelling? tag with
  | some word => modeled word
  | none => custom tag

/-- The tag of a kind. -/
def tag : ElementKind → String
  | modeled word => Vocabulary.spelling word
  | custom tag => tag

/-- Whether the tag is none of the modeled ones. -/
def isCustom : ElementKind → Bool
  | modeled _ => false
  | custom _ => true

/-- A kind keeps the spelling that it was read from. -/
@[simp]
theorem tag_ofTag (text : String) : (ofTag text).tag = text := by
  unfold ofTag
  split
  · next h => exact Vocabulary.spelling_of_ofSpelling? h
  · rfl

end ElementKind

/-- The relation tags that have a meaning of their own. -/
inductive RelationTag where
  | request | response | send | publish | subscribe | dataflow | rel | containedIn | implements
  | uses | inclusion | extension | association | aggregation | composition | inheritance
  | implementation | dependency | link | deployedTo | isA | has
  deriving DecidableEq

instance : Vocabulary RelationTag where
  words := [.request, .response, .send, .publish, .subscribe, .dataflow, .rel, .containedIn,
    .implements, .uses, .inclusion, .extension, .association, .aggregation, .composition,
    .inheritance, .implementation, .dependency, .link, .deployedTo, .isA, .has]
  spelling
    | .request => "request"
    | .response => "response"
    | .send => "send"
    | .publish => "publish"
    | .subscribe => "subscribe"
    | .dataflow => "dataflow"
    | .rel => "rel"
    | .containedIn => "contained-in"
    | .implements => "implements"
    | .uses => "uses"
    | .inclusion => "include"
    | .extension => "extends"
    | .association => "association"
    | .aggregation => "aggregation"
    | .composition => "composition"
    | .inheritance => "inheritance"
    | .implementation => "implementation"
    | .dependency => "dependency"
    | .link => "link"
    | .deployedTo => "deployed-to"
    | .isA => "is-a"
    | .has => "has"

/-- The kind of a relation: a modeled tag, or any other tag as it is spelled. -/
inductive RelationKind where
  | modeled (word : RelationTag)
  | custom (tag : String)
  deriving DecidableEq

namespace RelationKind

/-- The kind that a tag names. -/
def ofTag (tag : String) : RelationKind :=
  match Vocabulary.ofSpelling? tag with
  | some word => modeled word
  | none => custom tag

/-- The tag of a kind. -/
def tag : RelationKind → String
  | modeled word => Vocabulary.spelling word
  | custom tag => tag

/-- Whether the tag is none of the modeled ones. -/
def isCustom : RelationKind → Bool
  | modeled _ => false
  | custom _ => true

/-- Whether a relation of this kind places its source inside its target. -/
def isContainment (kind : RelationKind) : Bool :=
  kind = modeled .containedIn

/-- A kind keeps the spelling that it was read from. -/
@[simp]
theorem tag_ofTag (text : String) : (ofTag text).tag = text := by
  unfold ofTag
  split
  · next h => exact Vocabulary.spelling_of_ofSpelling? h
  · rfl

end RelationKind

/-- The view tags that have a meaning of their own. -/
inductive ViewTag where
  | context | landscape | container | component | dynamic | deployment | custom | filtered
  deriving DecidableEq

instance : Vocabulary ViewTag where
  words := [.context, .landscape, .container, .component, .dynamic, .deployment, .custom, .filtered]
  spelling
    | .context => "context"
    | .landscape => "landscape"
    | .container => "container"
    | .component => "component"
    | .dynamic => "dynamic"
    | .deployment => "deployment"
    | .custom => "custom"
    | .filtered => "filtered"

/-- The kind of a view: a modeled tag, or any other tag as it is spelled. -/
inductive ViewKind where
  | modeled (word : ViewTag)
  | other (tag : String)
  deriving DecidableEq

namespace ViewKind

/-- The kind that a tag names. The tags are listed here once more, apart from those by which kinds
are written. -/
def ofTag (tag : String) : ViewKind :=
  match tag with
  | "context" => modeled .context
  | "landscape" => modeled .landscape
  | "container" => modeled .container
  | "component" => modeled .component
  | "dynamic" => modeled .dynamic
  | "deployment" => modeled .deployment
  | "custom" => modeled .custom
  | "filtered" => modeled .filtered
  | _ => other tag

/-- The tag of a kind. -/
def tag : ViewKind → String
  | modeled word => Vocabulary.spelling word
  | other tag => tag

/-- Tags are read as they are written. -/
theorem ofTag_eq (text : String) : ofTag text =
    match Vocabulary.ofSpelling? text with
    | some word => modeled word
    | none => other text := by
  unfold ofTag
  split
  case h_9 =>
    have hnone : (Vocabulary.ofSpelling? text : Option ViewTag) = none := by
      rw [Vocabulary.ofSpelling?_eq_none_iff]
      simp_all [Vocabulary.words, Vocabulary.spelling]
    rw [hnone]
  all_goals rfl

/-- Whether the tag is one of the modeled ones. -/
def isKnown : ViewKind → Bool
  | modeled _ => true
  | other _ => false

/-- A kind keeps the spelling that it was read from. -/
@[simp]
theorem tag_ofTag (text : String) : (ofTag text).tag = text := by
  rw [ofTag_eq]
  split
  · next h => exact Vocabulary.spelling_of_ofSpelling? h
  · rfl

end ViewKind

/-- How settled an element is. An element without a maturity is established. -/
inductive Maturity where
  | proposed | deprecated
  deriving DecidableEq

instance : Vocabulary Maturity where
  words := [.proposed, .deprecated]
  spelling
    | .proposed => "proposed"
    | .deprecated => "deprecated"

/-- The maturity that a text names. -/
def Maturity.ofText? : String → Option Maturity
  | "proposed" => some proposed
  | "deprecated" => some deprecated
  | _ => none

/-- Maturities are named as they are written. -/
theorem Maturity.ofText?_eq (text : String) : ofText? text = Vocabulary.ofSpelling? text := by
  unfold ofText?
  split
  case h_3 =>
    symm
    rw [Vocabulary.ofSpelling?_eq_none_iff]
    simp_all [Vocabulary.words, Vocabulary.spelling]
  all_goals rfl

/-- What is said of a text that is no maturity. -/
def Maturity.refusal : String := "Unsupported maturity"

/-- Where a relation or a view should be drawn. It never affects what is selected. -/
inductive Direction where
  | up | down | left | right
  deriving DecidableEq

instance : Vocabulary Direction where
  words := [.up, .down, .left, .right]
  spelling
    | .up => "up"
    | .down => "down"
    | .left => "left"
    | .right => "right"

/-- What is said of a text that is no direction. -/
def Direction.refusal : String := "Unsupported direction"

end Viewpoint
