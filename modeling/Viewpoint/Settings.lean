/-!
# Settings

What a user may choose about selecting and composing. Everything has a default.
-/

namespace Viewpoint

/-- Choices about selecting items. -/
structure SelectionSettings where
  /-- Whether criteria that select everything are noted. -/
  warnUnrestricted : Bool := true
  deriving DecidableEq, Inhabited

/-- Choices about composing views. -/
structure ComposeSettings where
  /-- Whether views may be composed side by side; the outcome is the same. -/
  parallel : Bool := true
  /-- Whether relations that lose an end to a filter are left out. -/
  pruneDanglingRelations : Bool := true
  deriving DecidableEq, Inhabited

/-- All choices. -/
structure Settings where
  /-- The choices about selecting items. -/
  selection : SelectionSettings := {}
  /-- The choices about composing views. -/
  compose : ComposeSettings := {}
  deriving DecidableEq, Inhabited

end Viewpoint
