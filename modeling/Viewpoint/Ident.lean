/-!
# Identifiers

Elements, relations and views are named by slash-separated paths such as `acme/billing/api`. The
namespace of an identifier is its path without the last segment.

* `Ident.nameSpace` is the namespace of an identifier.
* `dropLastSegment_append` says that one segment is removed, however many slashes stand before it.
-/

namespace Viewpoint

/-- The name under which an element, a relation or a view is declared. Two identifiers are the
same exactly when they are spelled the same. -/
structure Ident where
  /-- The spelling of the identifier. -/
  text : String
  deriving DecidableEq, Inhabited

instance : ToString Ident := ⟨Ident.text⟩

/-- The character between two segments of a path. -/
def pathSeparator : Char := '/'

/-- The characters before the last separator, and none when there is no separator. -/
def dropLastSegment (path : List Char) : List Char :=
  ((path.reverse.dropWhile (· ≠ pathSeparator)).drop 1).reverse

/-- A last segment and the separator before it are dropped. -/
theorem dropLastSegment_append (path segment : List Char) (h : pathSeparator ∉ segment) :
    dropLastSegment (path ++ pathSeparator :: segment) = path := by
  have hall : ∀ c ∈ segment.reverse, (c ≠ pathSeparator : Bool) = true := by
    intro c hc
    simp only [List.mem_reverse] at hc
    simpa using fun hcp : c = pathSeparator => h (hcp ▸ hc)
  simp only [dropLastSegment, List.reverse_append, List.reverse_cons, List.append_assoc]
  rw [List.dropWhile_append_of_pos hall]
  simp

/-- A path of one segment has nothing before it. -/
theorem dropLastSegment_of_notMem {path : List Char} (h : pathSeparator ∉ path) :
    dropLastSegment path = [] := by
  have hall : ∀ c ∈ path.reverse, (c ≠ pathSeparator : Bool) = true := by
    intro c hc
    simp only [List.mem_reverse] at hc
    simpa using fun hcp : c = pathSeparator => h (hcp ▸ hc)
  have hnil : path.reverse.dropWhile (· ≠ pathSeparator) = [] := by
    have happend := @List.dropWhile_append_of_pos _ _ path.reverse [] hall
    rw [List.append_nil] at happend
    exact happend
  rw [dropLastSegment, hnil]
  rfl

/-- The path of an identifier without its last segment; an identifier of one segment has the empty
namespace. -/
def Ident.nameSpace (id : Ident) : String :=
  String.ofList (dropLastSegment id.text.toList)

end Viewpoint
