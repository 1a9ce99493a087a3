import Viewpoint.Item

/-!
# Adjacency

For each element the relations that start and the relations that end there, in the order in which
they are declared.

* `Index.get_add` says what adding to an index changes.
* `Adjacency.outgoing_ofRelations` and `Adjacency.incoming_ofRelations` say which relations are
  found at an element.
-/

namespace Viewpoint

/-- Lists of values filed under identifiers. -/
structure Index (α : Type) where
  /-- Each identifier that has values, with its values. -/
  entries : List (Ident × List α)

namespace Index

variable {α : Type}

/-- Nothing is filed. -/
def empty : Index α := ⟨[]⟩

instance : EmptyCollection (Index α) := ⟨empty⟩

/-- The values under an identifier, in the order in which they were added. -/
def get (index : Index α) (key : Ident) : List α :=
  match index.entries.find? (·.1 = key) with
  | some entry => entry.2
  | none => []

/-- Appends a value to the list under an identifier, starting a list if there is none. -/
def addTo (key : Ident) (value : α) : List (Ident × List α) → List (Ident × List α)
  | [] => [(key, [value])]
  | entry :: rest =>
    if entry.1 = key then (key, entry.2 ++ [value]) :: rest else entry :: addTo key value rest

/-- Files one more value under an identifier. -/
def add (index : Index α) (key : Ident) (value : α) : Index α :=
  ⟨addTo key value index.entries⟩

/-- Under an index without entries nothing is found. -/
@[simp]
theorem get_empty (key : Ident) : (∅ : Index α).get key = [] := rfl

/-- A value is added at the end of its identifier's list and nowhere else. -/
theorem get_add (index : Index α) (key other : Ident) (value : α) :
    (index.add key value).get other =
      if other = key then index.get key ++ [value] else index.get other := by
  obtain ⟨entries⟩ := index
  simp only [add, get]
  induction entries with
  | nil =>
    by_cases h : other = key
    · simp [addTo, h]
    · have h' : ¬ key = other := fun hk => h hk.symm
      simp [addTo, h, h']
  | cons entry rest ih =>
    by_cases hkey : entry.1 = key
    · subst hkey
      by_cases h : other = entry.1
      · simp [addTo, h]
      · have h' : ¬ entry.1 = other := fun hk => h hk.symm
        simp [addTo, h, h']
    · by_cases hother : entry.1 = other
      · subst hother
        simp [addTo, hkey]
      · simpa [addTo, hkey, hother] using ih

end Index

/-- The relations at each element, in the order in which they are declared. -/
structure Adjacency where
  /-- The relations that start at an element. -/
  outgoing : Index Relation
  /-- The relations that end at an element. -/
  incoming : Index Relation

namespace Adjacency

/-- No relations at all. -/
def empty : Adjacency := ⟨∅, ∅⟩

instance : EmptyCollection Adjacency := ⟨empty⟩

/-- Files a relation at both of its ends. -/
def add (adjacency : Adjacency) (relation : Relation) : Adjacency where
  outgoing := adjacency.outgoing.add relation.source relation
  incoming := adjacency.incoming.add relation.target relation

/-- Files relations in their order. -/
def ofRelations (relations : List Relation) : Adjacency :=
  relations.foldl add empty

/-- The relations found as outgoing are the ones that start there. -/
theorem outgoing_ofRelations (relations : List Relation) (id : Ident) :
    (ofRelations relations).outgoing.get id = relations.filter (·.source = id) := by
  have hfold : ∀ (rest : List Relation) (start : Adjacency),
      (rest.foldl add start).outgoing.get id =
        start.outgoing.get id ++ rest.filter (·.source = id) := by
    intro rest
    induction rest with
    | nil => simp
    | cons r rest ih =>
      intro start
      rw [List.foldl_cons, ih]
      by_cases h : r.source = id
      · simp [add, Index.get_add, h]
      · have h' : ¬ id = r.source := fun hk => h hk.symm
        simp [add, Index.get_add, h, h']
  have h := hfold relations empty
  simpa [ofRelations, empty] using h

/-- The relations found as incoming are the ones that end there. -/
theorem incoming_ofRelations (relations : List Relation) (id : Ident) :
    (ofRelations relations).incoming.get id = relations.filter (·.target = id) := by
  have hfold : ∀ (rest : List Relation) (start : Adjacency),
      (rest.foldl add start).incoming.get id =
        start.incoming.get id ++ rest.filter (·.target = id) := by
    intro rest
    induction rest with
    | nil => simp
    | cons r rest ih =>
      intro start
      rw [List.foldl_cons, ih]
      by_cases h : r.target = id
      · simp [add, Index.get_add, h]
      · have h' : ¬ id = r.target := fun hk => h hk.symm
        simp [add, Index.get_add, h, h']
  have h := hfold relations empty
  simpa [ofRelations, empty] using h

end Adjacency

end Viewpoint
