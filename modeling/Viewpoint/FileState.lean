/-!
# Files

The library does not touch files. What it needs to know of one is whether it is there and what text
is in it.
-/

namespace Viewpoint

/-- What is found in the place of a file. -/
inductive FileState where
  /-- There is no file. -/
  | missing
  /-- There is a file that is no text. -/
  | unreadable
  /-- There is a file with a text. -/
  | text (content : String)
  deriving DecidableEq, Inhabited

/-- The text of a file, if it is there and is one. -/
def FileState.text? : FileState → Option String
  | text content => some content
  | _ => none

end Viewpoint
