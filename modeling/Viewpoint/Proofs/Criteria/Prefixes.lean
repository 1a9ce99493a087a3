import Mathlib.Tactic.TFAE
import Viewpoint.Proofs.Criteria.Converse

/-!
# Namespace prefixes

Whether an item lies below a path is decided on its namespace: the last segment is taken off its
name, the path is taken off what is left, and what then remains must be empty or start with a
separator. For the name itself this means that it starts with the path and a separator, and for the
segments that those of the path come first. Empty segments and separators at either end are no
exceptions.

* `segments` are the texts between the separators of a path.
* `dropLastSegment_cases` says what taking off the last segment leaves.
* `liesBelow_iff`, `append_separator_prefix_iff` and `segments_prefix_iff` bring the three readings
  to one form.
* `SelectsBelow` says which items lie below a path, and `selectsBelow` that criteria select them.
-/

namespace Viewpoint

/-- The texts between the separators of a path; a path without separators is one segment. -/
def segments (path : List Char) : List (List Char) :=
  path.splitOn pathSeparator

variable {path above segment : List Char}

/-- The segments of a path make up the path, with separators between them. -/
theorem intercalate_segments (path : List Char) :
    [pathSeparator].intercalate (segments path) = path :=
  List.intercalate_splitOn pathSeparator

/-- Paths with the same segments are the same. -/
theorem segments_injective : Function.Injective segments :=
  Function.LeftInverse.injective intercalate_segments

/-- The segments of two paths that are joined by a separator follow each other. -/
theorem segments_append (left right : List Char) :
    segments (left ++ pathSeparator :: right) = segments left ++ segments right :=
  List.splitOn_append_cons_self left right

/-- Between two separators that stand side by side lies an empty segment. -/
example : segments "a//b".toList = [['a'], [], ['b']] := by decide

/-- Segments that are written one after the other, with separators between them. -/
theorem intercalate_append_cons {left right : List (List Char)} (hleft : left ≠ []) :
    [pathSeparator].intercalate (left ++ segment :: right) =
      [pathSeparator].intercalate left ++
        pathSeparator :: [pathSeparator].intercalate (segment :: right) := by
  induction left with
  | nil => exact absurd rfl hleft
  | cons first rest ih =>
    cases rest with
    | nil => simp
    | cons second rest =>
      rw [List.cons_append, List.intercalate_cons_of_ne_nil (by simp), ih (by simp),
        List.intercalate_cons_of_ne_nil (List.cons_ne_nil second rest)]
      simp

/-- A path is one segment, or its last segment stands behind a separator. -/
theorem dropLastSegment_cases (path : List Char) :
    pathSeparator ∉ path ∧ dropLastSegment path = [] ∨
      ∃ segment, pathSeparator ∉ segment ∧
        path = dropLastSegment path ++ pathSeparator :: segment := by
  by_cases h : pathSeparator ∈ path
  · -- the last separator is the first one from behind
    obtain ⟨segment, before, hpath, hsegment⟩ :=
      List.eq_append_cons_of_mem (List.mem_reverse.2 h)
    have hsplit : path = before.reverse ++ pathSeparator :: segment.reverse := by
      simpa using congrArg List.reverse hpath
    have hsegment' : pathSeparator ∉ segment.reverse := by simpa using hsegment
    refine Or.inr ⟨segment.reverse, hsegment', ?_⟩
    have hdrop : dropLastSegment path = before.reverse := by
      rw [hsplit]
      exact dropLastSegment_append _ _ hsegment'
    rw [hdrop]
    exact hsplit
  · exact Or.inl ⟨h, dropLastSegment_of_notMem h⟩

/-- A path lies below a non-empty one if it is that one or goes on behind it with a separator. -/
theorem liesBelow_iff (habove : above ≠ []) :
    liesBelow path above = true ↔ path = above ∨ above ++ [pathSeparator] <+: path := by
  simp only [liesBelow, Bool.or_eq_true, List.isEmpty_iff, habove, false_or, Bool.and_eq_true,
    List.isPrefixOf_iff_prefix]
  constructor
  · rintro ⟨⟨rest, rfl⟩, hrest⟩
    cases rest with
    | nil => simp
    | cons c rest =>
      have hc : c = pathSeparator := by simpa using hrest
      subst hc
      exact Or.inr ⟨rest, by simp⟩
  · rintro (rfl | ⟨rest, rfl⟩)
    · simp
    · simp

/-- A path and a separator stand before the last segment of a path, if at all. -/
theorem append_separator_prefix_iff (hsegment : pathSeparator ∉ segment) :
    above ++ [pathSeparator] <+: path ++ pathSeparator :: segment ↔
      path = above ∨ above ++ [pathSeparator] <+: path := by
  constructor
  · rintro ⟨rest, hrest⟩
    rw [List.append_assoc, List.singleton_append, List.append_eq_append_iff] at hrest
    rcases hrest with ⟨more, rfl, hmore⟩ | ⟨more, rfl, hmore⟩
    · cases more with
      | nil => simp
      | cons c more =>
        obtain ⟨rfl, rfl⟩ := List.cons.inj hmore
        exact Or.inr ⟨more, by simp⟩
    · cases more with
      | nil => simp
      | cons c more =>
        -- otherwise the separator behind the longer path would stand in the last segment
        obtain ⟨rfl, rfl⟩ := List.cons.inj hmore
        exact absurd (by simp) hsegment
  · rintro (rfl | ⟨rest, rfl⟩)
    · exact ⟨segment, by simp⟩
    · exact ⟨rest ++ pathSeparator :: segment, by simp⟩

/-- The segments of one path are the first ones of another if that path is the same or goes on with
a separator. -/
theorem segments_prefix_iff :
    segments above <+: segments path ↔ path = above ∨ above ++ [pathSeparator] <+: path := by
  constructor
  · rintro ⟨rest, hrest⟩
    cases rest with
    | nil =>
      rw [List.append_nil] at hrest
      exact Or.inl (segments_injective hrest.symm)
    | cons segment rest =>
      refine Or.inr ⟨[pathSeparator].intercalate (segment :: rest), ?_⟩
      have hne : segments above ≠ [] := List.splitOn_ne_nil pathSeparator above
      -- the remaining segments are what stands behind the separator
      rw [List.append_assoc, List.singleton_append, ← intercalate_segments path, ← hrest,
        intercalate_append_cons hne, intercalate_segments]
  · rintro (rfl | ⟨rest, rfl⟩)
    · exact List.prefix_rfl
    · rw [List.append_assoc, List.singleton_append, segments_append]
      exact List.prefix_append _ _

/-- Which items lie below a path. -/
structure SelectsBelow (model : Model) (item : Item) : Prop where
  /-- All items lie below the empty path. -/
  root : model.satisfies (Predicate.nameSpacePrefix "").alone item = true
  /-- An item lies below any other path exactly when its name starts with the path and a separator,
  which is when the segments of the path are the first ones of its namespace. -/
  below : ∀ path : String, path ≠ "" →
    [model.satisfies (Predicate.nameSpacePrefix path).alone item = true,
      ∃ rest, item.id.text = path ++ "/" ++ rest,
      segments path.toList <+: segments item.nameSpace.toList].TFAE

/-- A name starts with a path and a separator if its characters do. -/
theorem exists_text_eq_iff {text path : String} :
    (∃ rest, text = path ++ "/" ++ rest) ↔ path.toList ++ [pathSeparator] <+: text.toList := by
  constructor
  · rintro ⟨rest, rfl⟩
    exact ⟨rest.toList, by simp [pathSeparator]⟩
  · rintro ⟨rest, hrest⟩
    refine ⟨String.ofList rest, String.toList_injective ?_⟩
    rw [← hrest]
    simp [pathSeparator]

/-- Criteria select the items below a path, in every model. -/
theorem selectsBelow (model : Model) (item : Item) : SelectsBelow model item where
  root := by simp [Predicate.holds, liesBelow]
  below path hpath := by
    have hne : path.toList ≠ [] := fun h => hpath (String.toList_injective (by simpa using h))
    have hspace : item.nameSpace.toList = dropLastSegment item.id.text.toList := by
      simp [Item.nameSpace, Ident.nameSpace]
    rw [Model.satisfies_alone, Predicate.holds, liesBelow_iff hne, exists_text_eq_iff,
      segments_prefix_iff, hspace]
    rcases dropLastSegment_cases item.id.text.toList with ⟨hone, hnil⟩ | ⟨segment, hsegment, hid⟩
    · -- a name of one segment lies below no path
      have hnot : ¬ path.toList ++ [pathSeparator] <+: item.id.text.toList := fun h =>
        hone (h.subset (by simp))
      rw [hnil]
      tfae_have 1 ↔ 3 := Iff.rfl
      tfae_have 1 ↔ 2 := by simp [hne.symm, hnot]
      tfae_finish
    · tfae_have 1 ↔ 3 := Iff.rfl
      tfae_have 2 ↔ 3 := by
        conv_lhs => rw [hid]
        exact append_separator_prefix_iff hsegment
      tfae_finish

end Viewpoint
