/-!
# Closed vocabularies

A closed vocabulary is a finite list of words, each with one spelling by which it is written. Words
are read by the same table or by one of their own, which is then shown to agree with it.

* `Vocabulary.ofSpelling?` reads a word.
* `Vocabulary.spelling_of_ofSpelling?` says that a word is read only from its own spelling.
-/

namespace Viewpoint

/-- A finite list of words with a spelling for each. -/
class Vocabulary (α : Type) where
  /-- All words, in the order of their definition. -/
  words : List α
  /-- The text by which a word is written. -/
  spelling : α → String

namespace Vocabulary

variable {α : Type} [Vocabulary α]

/-- The first word with the given spelling. -/
def ofSpelling? (text : String) : Option α :=
  words.find? (fun word => spelling word == text)

/-- A word is read only from its own spelling. -/
theorem spelling_of_ofSpelling? {text : String} {word : α} (h : ofSpelling? text = some word) :
    spelling word = text := by
  simpa using List.find?_some h

/-- A text is read exactly when it spells some word of the list. -/
theorem ofSpelling?_eq_none_iff {text : String} :
    (ofSpelling? text : Option α) = none ↔ text ∉ (words : List α).map spelling := by
  simp only [ofSpelling?, List.find?_eq_none, beq_iff_eq, List.mem_map, not_exists, not_and]

end Vocabulary

end Viewpoint
