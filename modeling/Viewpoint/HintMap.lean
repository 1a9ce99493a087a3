/-!
# Hint maps

Layout hints are texts under names. The entries are kept in increasing order of their names, so two
maps with the same entries are equal and a map is always written in the same order.

* `HintMap.get?_put` says what putting an entry changes.
* `HintMap.get?_update` says which map's entry counts when one map is laid over another.
-/

namespace Viewpoint

/-- Texts under distinct names, in increasing order of the names. -/
structure HintMap where
  /-- The entries. -/
  entries : List (String × String)
  /-- Each name stands before all greater ones, and only once. -/
  sorted : (entries.map Prod.fst).Pairwise (· < ·)
  deriving DecidableEq

namespace HintMap

/-- Puts an entry in its place, instead of one with the same name if there is one. -/
def putSorted (name value : String) : List (String × String) → List (String × String)
  | [] => [(name, value)]
  | head :: rest =>
    if name < head.1 then (name, value) :: head :: rest
    else if name = head.1 then (name, value) :: rest
    else head :: putSorted name value rest

/-- Putting an entry adds its name and no other. -/
theorem mem_map_putSorted {x name value : String} {entries : List (String × String)} :
    x ∈ (putSorted name value entries).map Prod.fst ↔ x = name ∨ x ∈ entries.map Prod.fst := by
  induction entries with
  | nil => simp [putSorted]
  | cons head rest ih =>
    simp only [putSorted]
    split
    · simp
    · split
      · next h => subst h; simp
      · simp only [List.map_cons, List.mem_cons, ih]
        constructor
        · rintro (h | h | h) <;> simp [h]
        · rintro (h | h | h) <;> simp [h]

/-- Entries in increasing order stay so. -/
theorem pairwise_putSorted {name value : String} {entries : List (String × String)}
    (h : (entries.map Prod.fst).Pairwise (· < ·)) :
    ((putSorted name value entries).map Prod.fst).Pairwise (· < ·) := by
  induction entries with
  | nil => simp [putSorted]
  | cons head rest ih =>
    rw [List.map_cons, List.pairwise_cons] at h
    simp only [putSorted]
    split
    · next hlt =>
      refine List.pairwise_cons.2 ⟨?_, List.pairwise_cons.2 h⟩
      intro x hx
      rcases List.mem_cons.1 hx with rfl | hx
      · exact hlt
      · exact String.lt_trans hlt (h.1 x hx)
    · next hlt =>
      split
      · next heq => exact List.pairwise_cons.2 ⟨heq ▸ h.1, h.2⟩
      · next hne =>
        refine List.pairwise_cons.2 ⟨?_, ih h.2⟩
        intro x hx
        rcases mem_map_putSorted.1 hx with rfl | hx
        · exact Decidable.byContradiction fun hxh =>
            hne (String.le_antisymm (String.not_lt.1 hxh) (String.not_lt.1 hlt))
        · exact h.1 x hx

/-- The map without entries. -/
def empty : HintMap := ⟨[], List.Pairwise.nil⟩

instance : EmptyCollection HintMap := ⟨empty⟩

instance : Inhabited HintMap := ⟨empty⟩

/-- The text under a name. -/
def get? (map : HintMap) (name : String) : Option String :=
  (map.entries.find? (·.1 = name)).map Prod.snd

/-- The map with a text put under a name. -/
def put (map : HintMap) (name value : String) : HintMap :=
  ⟨putSorted name value map.entries, pairwise_putSorted map.sorted⟩

/-- The map of entries, of which a later one takes the place of an earlier one with its name. -/
def ofList (entries : List (String × String)) : HintMap :=
  entries.foldl (fun map entry => map.put entry.1 entry.2) empty

/-- A map laid over another: its own entries count where both have one. -/
def update (base own : HintMap) : HintMap :=
  own.entries.foldl (fun map entry => map.put entry.1 entry.2) base

/-- Whether the map has no entries. -/
def isEmpty (map : HintMap) : Bool :=
  map.entries.isEmpty

/-- Putting an entry changes what is found under its name and nothing else. -/
theorem get?_put (map : HintMap) (name value other : String) :
    (map.put name value).get? other = if other = name then some value else map.get? other := by
  obtain ⟨entries, hsorted⟩ := map
  simp only [put, get?]
  clear hsorted
  induction entries with
  | nil =>
    by_cases h : other = name
    · simp [putSorted, h]
    · simp [putSorted, h, Ne.symm h]
  | cons head rest ih =>
    simp only [putSorted]
    by_cases hother : other = name
    · subst hother
      split
      · simp
      · split
        · simp
        · next hne => simpa [Ne.symm hne] using ih
    · split
      · simp [Ne.symm hother]
      · split
        · next heq => simp [← heq, Ne.symm hother]
        · by_cases hhead : head.1 = other
          · simp [hhead]
          · simpa [hhead, hother] using ih

/-- Entries in increasing order that are put one after the other count before what was there. -/
theorem get?_foldl_put {entries : List (String × String)}
    (h : (entries.map Prod.fst).Pairwise (· < ·)) (base : HintMap) (name : String) :
    (entries.foldl (fun map entry => map.put entry.1 entry.2) base).get? name =
      ((entries.find? (·.1 = name)).map Prod.snd).or (base.get? name) := by
  induction entries generalizing base with
  | nil => rfl
  | cons head rest ih =>
    rw [List.map_cons, List.pairwise_cons] at h
    rw [List.foldl_cons, ih h.2, get?_put]
    by_cases hhead : name = head.1
    · subst hhead
      -- no later entry has the name of the first one, so this is the one that counts
      have hrest : rest.find? (·.1 = head.1) = none := by
        refine List.find?_eq_none.2 fun entry hentry => ?_
        rw [decide_eq_true_iff]
        intro heq
        exact String.lt_irrefl head.1 (heq ▸ h.1 entry.1 (List.mem_map_of_mem hentry))
      simp [hrest]
    · simp [hhead, Ne.symm hhead]

/-- Of two maps, one laid over the other, the upper one counts where it has an entry. -/
theorem get?_update (base own : HintMap) (name : String) :
    (base.update own).get? name = (own.get? name).or (base.get? name) :=
  get?_foldl_put own.sorted base name

end HintMap

end Viewpoint
