import Viewpoint.IdentSet
import Viewpoint.Model.Basic
import Viewpoint.Vocabulary

/-!
# Expansion

A set of items can be widened: by the relations between its members, or by the elements that are
related to a member. Widenings are applied one after the other, so each sees what the earlier ones
have added.

* `Model.additions` is what one include flag adds.
* `Model.expand` applies a list of include flags.
-/

namespace Viewpoint

/-- What a selection is widened by. -/
inductive IncludeFlag where
  /-- The relations with both ends in the selection. -/
  | relations
  /-- The elements that are related to a member of the selection. -/
  | related
  deriving DecidableEq

instance : Vocabulary IncludeFlag where
  words := [.relations, .related]
  spelling
    | .relations => "relations"
    | .related => "related"

/-- The include flag that a text names. -/
def IncludeFlag.ofText? : String → Option IncludeFlag
  | "relations" => some relations
  | "related" => some related
  | _ => none

/-- Include flags are named as they are written. -/
theorem IncludeFlag.ofText?_eq (text : String) : ofText? text = Vocabulary.ofSpelling? text := by
  unfold ofText?
  split
  case h_3 =>
    symm
    rw [Vocabulary.ofSpelling?_eq_none_iff]
    simp_all [Vocabulary.words, Vocabulary.spelling]
  all_goals rfl

/-- What is said of a text that is no include flag. -/
def IncludeFlag.refusal (text : String) : String :=
  s!"unknown include flag `{text}`"

namespace Model

/-- Whether an element is related, in either direction, to a member of a set. -/
def isRelatedTo (model : Model) (set : IdentSet) (id : Ident) : Bool :=
  (model.relationsFrom id).any (fun r => set.contains r.target)
    || (model.relationsTo id).any (fun r => set.contains r.source)

/-- What an include flag adds to a set, in the order of declaration. -/
def additions (model : Model) (set : IdentSet) : IncludeFlag → List Ident
  | .relations =>
    (model.relations.filter fun r => set.contains r.source && set.contains r.target).map
      Relation.id
  | .related =>
    (model.elements.map Element.id).filter fun id =>
      !set.contains id && model.isRelatedTo set id

/-- A set widened by include flags, one after the other. -/
def expand (model : Model) (set : IdentSet) (flags : List IncludeFlag) : IdentSet :=
  flags.foldl (fun current flag => current.addAll (model.additions current flag)) set

end Model

end Viewpoint
