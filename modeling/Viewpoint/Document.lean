import Viewpoint.Declaration
import Viewpoint.View.Declaration

/-!
# Documents

A document holds what a report is made of: sources, whose declarations make the model, and views of
it, as written.
-/

namespace Viewpoint

/-- Sources and views as written, in order. -/
structure Document where
  /-- The sources of the model. -/
  sources : List Source := []
  /-- The views of the model. -/
  views : List ViewDecl := []
  deriving Inhabited

end Viewpoint
