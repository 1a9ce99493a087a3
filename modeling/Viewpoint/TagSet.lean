/-!
# Tag sets

The tags of an item form a set of texts. It is kept as a strictly increasing list, so two sets with
the same members are equal and a set is always written in the same order.

* `TagSet.mem_ofList` says which tags a set made from a list has.
* `TagSet.ofList_toList` says that a written set reads back as itself.
-/

namespace Viewpoint

/-- Texts without repetition, in increasing order of their characters. -/
structure TagSet where
  /-- The members in increasing order. -/
  toList : List String
  /-- Each member stands before all greater ones, and only once. -/
  sorted : toList.Pairwise (· < ·)
  deriving DecidableEq

namespace TagSet

/-- Puts a text in its place, unless it is there already. -/
def insertSorted (tag : String) : List String → List String
  | [] => [tag]
  | head :: rest =>
    if tag < head then tag :: head :: rest
    else if tag = head then head :: rest
    else head :: insertSorted tag rest

/-- Putting a text in its place adds it and nothing else. -/
@[simp]
theorem mem_insertSorted {x tag : String} {tags : List String} :
    x ∈ insertSorted tag tags ↔ x = tag ∨ x ∈ tags := by
  induction tags with
  | nil => simp [insertSorted]
  | cons head rest ih =>
    simp only [insertSorted]
    split
    · simp
    · split
      · next h => subst h; simp
      · simp only [List.mem_cons, ih]
        constructor
        · rintro (h | h | h) <;> simp [h]
        · rintro (h | h | h) <;> simp [h]

/-- An increasing list stays increasing. -/
theorem pairwise_insertSorted {tag : String} {tags : List String}
    (h : tags.Pairwise (· < ·)) : (insertSorted tag tags).Pairwise (· < ·) := by
  induction tags with
  | nil => simp [insertSorted]
  | cons head rest ih =>
    rw [List.pairwise_cons] at h
    simp only [insertSorted]
    split
    · next hlt =>
      refine List.pairwise_cons.2 ⟨?_, List.pairwise_cons.2 h⟩
      intro x hx
      rcases List.mem_cons.1 hx with rfl | hx
      · exact hlt
      · exact String.lt_trans hlt (h.1 x hx)
    · next hlt =>
      split
      · exact List.pairwise_cons.2 h
      · next hne =>
        refine List.pairwise_cons.2 ⟨?_, ih h.2⟩
        intro x hx
        rcases mem_insertSorted.1 hx with rfl | hx
        · exact Decidable.byContradiction fun hxh =>
            hne (String.le_antisymm (String.not_lt.1 hxh) (String.not_lt.1 hlt))
        · exact h.1 x hx

/-- No member is out of order where there is none. -/
theorem sorted_nil : ([] : List String).Pairwise (· < ·) := List.Pairwise.nil

/-- The set without members. -/
def empty : TagSet := ⟨[], sorted_nil⟩

instance : EmptyCollection TagSet := ⟨empty⟩

instance : Inhabited TagSet := ⟨empty⟩

/-- The set with one more member. -/
def insert (tags : TagSet) (tag : String) : TagSet :=
  ⟨insertSorted tag tags.toList, pairwise_insertSorted tags.sorted⟩

/-- The set of the texts of a list, whatever their order and repetitions. -/
def ofList (tags : List String) : TagSet :=
  tags.foldr (fun tag set => set.insert tag) empty

/-- Whether a text is a member. -/
def contains (tags : TagSet) (tag : String) : Bool :=
  tags.toList.contains tag

/-- Whether the set has no members. -/
def isEmpty (tags : TagSet) : Bool :=
  tags.toList.isEmpty

/-- A set made from a list has the members of the list. -/
@[simp]
theorem mem_ofList {x : String} {tags : List String} : x ∈ (ofList tags).toList ↔ x ∈ tags := by
  induction tags with
  | nil => simp [ofList, empty]
  | cons head rest ih =>
    have hstep : ofList (head :: rest) = (ofList rest).insert head := rfl
    rw [hstep]
    simp [insert, ih]

/-- A text that is smaller than the whole list is put in front. -/
theorem insertSorted_eq_cons {tag : String} {tags : List String} (h : ∀ x ∈ tags, tag < x) :
    insertSorted tag tags = tag :: tags := by
  cases tags with
  | nil => rfl
  | cons head rest => simp [insertSorted, h head (by simp)]

/-- A written set reads back as itself. -/
@[simp]
theorem ofList_toList (tags : TagSet) : ofList tags.toList = tags := by
  obtain ⟨list, hsorted⟩ := tags
  induction list with
  | nil => rfl
  | cons head rest ih =>
    rw [List.pairwise_cons] at hsorted
    have hstep : ofList (head :: rest) = (ofList rest).insert head := rfl
    have hrest : ofList rest = ⟨rest, hsorted.2⟩ := ih hsorted.2
    simp only [hstep, hrest, insert]
    congr 1
    exact insertSorted_eq_cons hsorted.1

end TagSet

end Viewpoint
