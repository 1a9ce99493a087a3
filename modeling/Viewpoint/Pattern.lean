import Viewpoint.Pattern.Program
import Viewpoint.Pattern.Reader
import Viewpoint.Pattern.Search

/-!
# Regular expressions

The patterns of the program are regular expressions that are looked for anywhere in a text.

* `Pattern.compileNode` reads a regular expression or says why a text is none.
* `regularExpressions` is the engine that compiles them.
-/

namespace Viewpoint

/-- What a text says as a regular expression. -/
def Pattern.compileNode (source : String) : Except Fault Node := do
  let term ← readTerm source.toList
  let node ← term.node
  node.checkSize
  pure node

/-- The engine for regular expressions. -/
instance regularExpressions : PatternEngine where
  compile source := (Pattern.compileNode source).map fun node =>
    { source, isMatch := fun text => node.occursIn text.toList }
  source_of_compile {text pattern} h := by
    cases hnode : Pattern.compileNode text with
    | error fault =>
      rw [hnode] at h
      cases h
    | ok node =>
      rw [hnode] at h
      cases h
      rfl

end Viewpoint
