import Viewpoint.Proofs.Criteria.KeyTable

/-!
# Reading criteria

Criteria are read entry by entry, whether they are one map or a list of maps. If the key of every
entry stands in the table and has a value of its form, criteria are read, and they are written again
as they were. Otherwise the first entry of which this is not true is the reason why they cannot be
read.

* `ClauseDecl.IsNamed` takes the mark off a key, `ClauseDecl.Admitted` and `ClauseDecl.Refused` say
  what becomes of an entry, and `ClauseDecl.clause_cases` that nothing else does.
* `exists_mapM_eq_ok_iff` and `mapM_eq_error_iff` say how a run over entries ends.
* `mapM_entries` says that nested entries are read in the order in which they are written.
* `ReadsByTable` says what is made of criteria as written, and `readsByTable` that all are read so.
-/

namespace Viewpoint

/-- A clause as it is written: its key with the mark, and its value. -/
def Clause.written (clause : Clause) : ClauseDecl :=
  ⟨clause.text, clause.predicate.value⟩

namespace Criteria

/-- Criteria as they are written: a map, or a list of maps. -/
def written : Criteria → CriteriaDecl
  | all conjunction => .all (conjunction.clauses.map Clause.written)
  | anyOf alternatives =>
    .anyOf (alternatives.map fun conjunction => conjunction.clauses.map Clause.written)

/-- The clauses of all alternatives, in order. -/
def clauses (criteria : Criteria) : List Clause :=
  criteria.alternatives.flatMap Conjunction.clauses

end Criteria

/-- The entries of all maps, in order. -/
def CriteriaDecl.entries : CriteriaDecl → List ClauseDecl
  | all clauses => clauses
  | anyOf alternatives => alternatives.flatten

/-- The key that an error names. -/
def CriteriaError.key : CriteriaError → String
  | unknownKey key => key
  | wrongShape key _ => key
  | invalidPattern key _ => key
  | invalidMaturity key _ => key

/-- A key that refuses a value is named. -/
theorem ValueForm.Refuses.key_eq [PatternEngine] {key : String} {form : ValueForm}
    {value : ClauseValue} {error : CriteriaError} (h : form.Refuses key value error) :
    error.key = key := by
  cases h <;> rfl

/-! ### One entry -/

namespace ClauseDecl

/-- The name of an entry is its key without the mark. At most one mark is taken off. -/
def IsNamed (entry : ClauseDecl) (name : String) : Prop :=
  entry.key = "!" ++ name ∨ entry.key = name ∧ ∀ rest, name ≠ "!" ++ rest

/-- An entry is read if its name stands in the table and its value has the form that stands
there. -/
def Admitted [PatternEngine] (entry : ClauseDecl) : Prop :=
  ∃ name form, entry.IsNamed name ∧ (name, form) ∈ keyTable ∧ form.Admits entry.value

/-- An entry is refused for its name if that does not stand in the table, and otherwise for its
value. -/
inductive Refused [PatternEngine] (entry : ClauseDecl) : CriteriaError → Prop
  | unknownKey {name : String} (hname : entry.IsNamed name)
      (h : ∀ form, (name, form) ∉ keyTable) : Refused entry (.unknownKey name)
  | value {name : String} {form : ValueForm} {error : CriteriaError} (hname : entry.IsNamed name)
      (h : (name, form) ∈ keyTable) (hvalue : form.Refuses name entry.value error) :
      Refused entry error

/-- A key has a mark, which is taken off, or it has none. -/
theorem splitKey_cases (key : String) :
    (∃ rest, key = "!" ++ rest ∧ splitKey key = (true, rest)) ∨
      ((∀ rest, key ≠ "!" ++ rest) ∧ splitKey key = (false, key)) := by
  rw [splitKey]
  split
  · next rest hkey =>
    refine Or.inl ⟨String.ofList rest, String.toList_injective ?_, rfl⟩
    simp [hkey]
  · next hkey =>
    refine Or.inr ⟨fun rest heq => hkey rest.toList ?_, rfl⟩
    simp [heq]

/-- The name is what is left when the mark is taken off. -/
theorem isNamed_iff {entry : ClauseDecl} {name : String} :
    entry.IsNamed name ↔ (splitKey entry.key).2 = name := by
  have hinj : ∀ {left right : String}, "!" ++ left = "!" ++ right → left = right := by
    intro left right h
    apply String.toList_injective
    simpa using congrArg String.toList h
  rcases splitKey_cases entry.key with ⟨rest, hkey, hsplit⟩ | ⟨hkey, hsplit⟩
  · rw [hsplit, IsNamed, hkey]
    constructor
    · rintro (h | ⟨h, hnot⟩)
      · exact hinj h
      · exact absurd h.symm (hnot rest)
    · rintro rfl
      exact Or.inl rfl
  · rw [hsplit, IsNamed]
    constructor
    · rintro (h | ⟨h, -⟩)
      · exact absurd h (hkey name)
      · exact h
    · rintro rfl
      exact Or.inr ⟨rfl, hkey⟩

/-- An entry has one name. -/
theorem IsNamed.unique {entry : ClauseDecl} {name name' : String} (h : entry.IsNamed name)
    (h' : entry.IsNamed name') : name = name' := by
  rw [isNamed_iff] at h h'
  rw [← h, h']

/-- A key is its mark and the name. -/
theorem key_of_splitKey {key name : String} {negated : Bool} (h : splitKey key = (negated, name)) :
    key = (if negated then negationMark else "") ++ name := by
  rcases splitKey_cases key with ⟨rest, hkey, hsplit⟩ | ⟨-, hsplit⟩
  · rw [hsplit] at h
    cases h
    exact hkey
  · rw [hsplit] at h
    cases h
    simp

variable [PatternEngine] {entry : ClauseDecl} {error error' : CriteriaError}

/-- An entry that is refused is not read. -/
theorem Refused.not_admitted (h : entry.Refused error) : ¬ entry.Admitted := by
  rintro ⟨name, form, hname, hform, hadmits⟩
  cases h with
  | unknownKey hname' hnot =>
    obtain rfl := hname.unique hname'
    exact hnot form hform
  | value hname' hform' hvalue =>
    obtain rfl := hname.unique hname'
    obtain rfl := Predicate.Key.keyTable_unique hform hform'
    exact hvalue.not_admits hadmits

/-- An entry is refused for one reason. -/
theorem Refused.unique (h : entry.Refused error) (h' : entry.Refused error') : error = error' := by
  cases h with
  | unknownKey hname hnot =>
    cases h' with
    | unknownKey hname' _ => rw [hname.unique hname']
    | value hname' hform _ =>
      obtain rfl := hname.unique hname'
      exact absurd hform (hnot _)
  | value hname hform hvalue =>
    cases h' with
    | unknownKey hname' hnot =>
      obtain rfl := hname'.unique hname
      exact absurd hform (hnot _)
    | value hname' hform' hvalue' =>
      obtain rfl := hname.unique hname'
      obtain rfl := Predicate.Key.keyTable_unique hform hform'
      exact hvalue.unique hvalue'

/-- The error of an entry names its key without the mark. -/
theorem Refused.isNamed (h : entry.Refused error) : entry.IsNamed error.key := by
  cases h with
  | unknownKey hname _ => exact hname
  | value hname _ hvalue => rwa [hvalue.key_eq]

/-- An entry is read as the clause that is written so, or refused. -/
theorem clause_cases (entry : ClauseDecl) :
    (∃ clause, entry.clause = .ok clause ∧ clause.written = entry ∧ entry.Admitted) ∨
      (∃ error, entry.clause = .error error ∧ entry.Refused error) := by
  obtain ⟨negated, name, hsplit⟩ : ∃ negated name, splitKey entry.key = (negated, name) :=
    ⟨_, _, rfl⟩
  have hname : entry.IsNamed name := isNamed_iff.2 (by rw [hsplit])
  have hclause : entry.clause = Predicate.read name entry.value >>= fun predicate =>
      pure ⟨predicate, negated⟩ := by
    rw [clause, hsplit]
  by_cases hform : ∃ form, (name, form) ∈ keyTable
  · obtain ⟨form, hform⟩ := hform
    have hyields := Predicate.read_yields hform entry.value
    generalize Predicate.read name entry.value = found at hclause hyields
    cases hyields with
    | read hwritten hadmits =>
      refine Or.inl ⟨_, hclause, ?_, name, form, hname, hform, hadmits⟩
      rw [Clause.written, Clause.text, hwritten.key_eq, ← key_of_splitKey hsplit,
        hwritten.value_eq]
    | refused hrefuses => exact Or.inr ⟨_, hclause, .value hname hform hrefuses⟩
  · have hnot : ∀ form, (name, form) ∉ keyTable := not_exists.1 hform
    rw [Predicate.read_eq_unknownKey_iff.2 hnot] at hclause
    exact Or.inr ⟨_, hclause, .unknownKey hname hnot⟩

/-- An entry is read exactly when its name and its value are in order. -/
theorem exists_clause_iff : (∃ clause, entry.clause = .ok clause) ↔ entry.Admitted := by
  rcases clause_cases entry with ⟨clause, hclause, -, hadmitted⟩ | ⟨error, herror, hrefused⟩
  · exact iff_of_true ⟨clause, hclause⟩ hadmitted
  · exact iff_of_false (by simp [herror]) hrefused.not_admitted

/-- An entry is refused exactly for what is wrong with it. -/
theorem clause_eq_error_iff : entry.clause = .error error ↔ entry.Refused error := by
  rcases clause_cases entry with ⟨clause, hclause, -, hadmitted⟩ | ⟨found, herror, hrefused⟩
  · exact iff_of_false (by simp [hclause]) fun h => h.not_admitted hadmitted
  · rw [herror]
    constructor
    · rintro ⟨⟩
      exact hrefused
    · intro h
      rw [hrefused.unique h]

/-- A clause is written as the entry that it is read from. -/
theorem written_of_clause {clause : Clause} (h : entry.clause = .ok clause) :
    clause.written = entry := by
  rcases clause_cases entry with ⟨found, hfound, hwritten, -⟩ | ⟨error, herror, -⟩
  · rw [h] at hfound
    cases hfound
    exact hwritten
  · rw [h] at herror
    cases herror

end ClauseDecl

/-! ### All entries -/

section Runs

variable {ε α β : Type} {step : α → Except ε β} {members : List α}

/-- A run over a list comes to its end exactly when every step gives a value. -/
theorem exists_mapM_eq_ok_iff :
    (∃ values, members.mapM step = .ok values) ↔ ∀ a ∈ members, ∃ b, step a = .ok b := by
  induction members with
  | nil => simp [pure, Except.pure]
  | cons a rest ih =>
    rw [List.forall_mem_cons, ← ih, List.mapM_cons]
    cases hstep : step a with
    | error error => simp [bind, Except.bind]
    | ok b =>
      cases rest.mapM step with
      | error error => simp [bind, Except.bind]
      | ok values => simp [bind, Except.bind, pure, Except.pure]

/-- A run over a list ends with an error exactly when a step gives this error and all steps before
give values. -/
theorem mapM_eq_error_iff {error : ε} : members.mapM step = .error error ↔
    ∃ before a after, members = before ++ a :: after ∧ (∀ x ∈ before, ∃ b, step x = .ok b) ∧
      step a = .error error := by
  induction members with
  | nil => simp [pure, Except.pure]
  | cons first rest ih =>
    rw [List.mapM_cons]
    cases hstep : step first with
    | error reason =>
      constructor
      · rintro ⟨⟩
        exact ⟨[], first, rest, rfl, by simp, hstep⟩
      · rintro ⟨before, a, after, hsplit, hbefore, ha⟩
        cases before with
        | nil =>
          obtain ⟨rfl, -⟩ := List.cons.inj hsplit
          rw [hstep] at ha
          cases ha
          rfl
        | cons x before =>
          -- the first step would give a value
          obtain ⟨rfl, -⟩ := List.cons.inj hsplit
          obtain ⟨b, hb⟩ := hbefore first (by simp)
          rw [hstep] at hb
          cases hb
    | ok b =>
      have hrest : (Except.ok b >>= fun b => rest.mapM step >>= fun values => pure (b :: values)) =
          (.error error : Except ε (List β)) ↔ rest.mapM step = .error error := by
        cases rest.mapM step with
        | error reason => rfl
        | ok values => simp [bind, Except.bind, pure, Except.pure]
      rw [hrest, ih]
      constructor
      · rintro ⟨before, a, after, rfl, hbefore, ha⟩
        exact ⟨first :: before, a, after, rfl,
          List.forall_mem_cons.2 ⟨⟨b, hstep⟩, hbefore⟩, ha⟩
      · rintro ⟨before, a, after, hsplit, hbefore, ha⟩
        cases before with
        | nil =>
          obtain ⟨rfl, -⟩ := List.cons.inj hsplit
          rw [hstep] at ha
          cases ha
        | cons x before =>
          obtain ⟨rfl, rfl⟩ := List.cons.inj hsplit
          exact ⟨before, a, after, rfl, (List.forall_mem_cons.1 hbefore).2, ha⟩

/-- What can be told of the result of every step from what it starts with, can be told of a run. -/
theorem map_eq_map_of_mapM_eq_ok {γ : Type} {observe : β → γ} {foretell : α → γ} {values : List β}
    (h : members.mapM step = .ok values)
    (hstep : ∀ a b, step a = .ok b → observe b = foretell a) :
    values.map observe = members.map foretell := by
  induction members generalizing values with
  | nil =>
    cases h
    rfl
  | cons a rest ih =>
    rw [List.mapM_cons] at h
    obtain ⟨b, hb, h⟩ := exists_of_bind_eq_ok h
    obtain ⟨others, hothers, h⟩ := exists_of_bind_eq_ok h
    cases h
    rw [List.map_cons, List.map_cons, hstep a b hb, ih hothers]

/-- What undoes every step of a run undoes the run. -/
theorem map_of_mapM_eq_ok {undo : β → α} {values : List β} (h : members.mapM step = .ok values)
    (hundo : ∀ a b, step a = .ok b → undo b = a) : values.map undo = members := by
  rw [map_eq_map_of_mapM_eq_ok h hundo, List.map_id']

end Runs

/-- A clause is negated when it is shown with the mark, as no key starts with it. -/
theorem Clause.negated_iff (clause : Clause) :
    clause.negated = true ↔ ∃ rest, clause.text = "!" ++ rest := by
  obtain ⟨predicate, negated⟩ := clause
  cases negated with
  | true => exact iff_of_true rfl ⟨_, rfl⟩
  | false =>
    refine iff_of_false (by simp) ?_
    rintro ⟨rest, hrest⟩
    have hhead : (Vocabulary.spelling predicate.key).toList.head? = some '!' := by
      have htext : Vocabulary.spelling predicate.key = "!" ++ rest := by
        simpa [text] using hrest
      rw [htext]
      simp
    cases hkey : predicate.key <;> rw [hkey] at hhead <;> revert hhead <;> decide

section Reading

variable [PatternEngine]

namespace CriteriaDecl

/-- Entries are read in the order in which they are written, however they are nested. -/
theorem mapM_entries (decl : CriteriaDecl) :
    decl.entries.mapM ClauseDecl.clause = decl.criteria.map Criteria.clauses := by
  cases decl with
  | all clauses =>
    rw [entries, criteria, readConjunction]
    cases clauses.mapM ClauseDecl.clause with
    | error error => rfl
    | ok read =>
      show _ = Except.ok _
      simp [Criteria.clauses, Criteria.alternatives]
  | anyOf alternatives =>
    have hflat : alternatives.flatten.mapM ClauseDecl.clause =
        (alternatives.mapM readConjunction).map (List.flatMap Conjunction.clauses) := by
      induction alternatives with
      | nil => rfl
      | cons clauses rest ih =>
        rw [List.flatten_cons, List.mapM_append, ih, List.mapM_cons, readConjunction]
        cases clauses.mapM ClauseDecl.clause with
        | error error => rfl
        | ok read =>
          cases rest.mapM readConjunction with
          | error error => rfl
          | ok others => rfl
    rw [entries, hflat, criteria]
    cases alternatives.mapM readConjunction with
    | error error => rfl
    | ok read => rfl

/-- Criteria are read exactly when each of their entries is. -/
theorem exists_criteria_iff (decl : CriteriaDecl) : (∃ criteria, decl.criteria = .ok criteria) ↔
    ∀ entry ∈ decl.entries, ∃ clause, entry.clause = .ok clause := by
  rw [← exists_mapM_eq_ok_iff, decl.mapM_entries]
  cases decl.criteria with
  | error error => simp [Except.map]
  | ok criteria => simp [Except.map]

/-- Criteria are written as those that they are read from. -/
theorem written_of_criteria {decl : CriteriaDecl} {criteria : Criteria}
    (h : decl.criteria = .ok criteria) : criteria.written = decl := by
  have hconjunction : ∀ clauses conjunction, readConjunction clauses = .ok conjunction →
      conjunction.clauses.map Clause.written = clauses := by
    intro clauses conjunction hread
    obtain ⟨read, hclauses, hread⟩ := exists_of_bind_eq_ok hread
    cases hread
    exact map_of_mapM_eq_ok hclauses fun entry clause => ClauseDecl.written_of_clause
  cases decl with
  | all clauses =>
    obtain ⟨conjunction, hread, h⟩ := exists_of_bind_eq_ok h
    cases h
    rw [Criteria.written, hconjunction clauses conjunction hread]
  | anyOf alternatives =>
    obtain ⟨conjunctions, hread, h⟩ := exists_of_bind_eq_ok h
    cases h
    rw [Criteria.written, map_of_mapM_eq_ok hread hconjunction]

end CriteriaDecl

/-- What is made of criteria as written. -/
structure ReadsByTable (decl : CriteriaDecl) : Prop where
  /-- Criteria are read exactly when every entry is: its key without the mark stands in the table,
  and its value is what the table says. -/
  exists_iff : (∃ criteria, decl.criteria = .ok criteria) ↔ ∀ entry ∈ decl.entries, entry.Admitted
  /-- Criteria that are read have a clause for each entry, in the same maps and in the same order,
  with its value and shown by its key. -/
  written : ∀ criteria, decl.criteria = .ok criteria → criteria.written = decl
  /-- A clause is negated exactly when its key has the mark. -/
  negated_iff : ∀ criteria, decl.criteria = .ok criteria → ∀ clause ∈ criteria.clauses,
    clause.negated = true ↔ ∃ rest, clause.text = "!" ++ rest
  /-- Criteria that are not read are refused for the first entry that is. -/
  error_iff : ∀ error, decl.criteria = .error error ↔
    ∃ before entry after, decl.entries = before ++ entry :: after ∧
      (∀ earlier ∈ before, earlier.Admitted) ∧ entry.Refused error ∧ entry.IsNamed error.key

/-- Criteria are read by the table, whatever is written. -/
theorem readsByTable (decl : CriteriaDecl) : ReadsByTable decl where
  exists_iff := by
    rw [decl.exists_criteria_iff]
    exact forall₂_congr fun entry _ => ClauseDecl.exists_clause_iff
  written criteria h := CriteriaDecl.written_of_criteria h
  negated_iff criteria _ clause _ := clause.negated_iff
  error_iff error := by
    have hentries : decl.criteria = .error error ↔
        decl.entries.mapM ClauseDecl.clause = .error error := by
      rw [decl.mapM_entries]
      cases decl.criteria with
      | error reason => simp [Except.map]
      | ok criteria => simp [Except.map]
    rw [hentries, mapM_eq_error_iff]
    simp only [ClauseDecl.exists_clause_iff, ClauseDecl.clause_eq_error_iff]
    constructor
    · rintro ⟨before, entry, after, hsplit, hbefore, hrefused⟩
      exact ⟨before, entry, after, hsplit, hbefore, hrefused, hrefused.isNamed⟩
    · rintro ⟨before, entry, after, hsplit, hbefore, hrefused, -⟩
      exact ⟨before, entry, after, hsplit, hbefore, hrefused⟩

end Reading

end Viewpoint
