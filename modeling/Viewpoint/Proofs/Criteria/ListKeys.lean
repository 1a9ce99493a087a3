import Viewpoint.Proofs.Criteria.Converse

/-!
# List keys

Eight keys take a list and ask for one of its values or for all of them. Each is decided in a way of
its own: texts are compared, names and tags are looked up, and the absence of a maturity is a value
like the others. Among any further clauses a list key says the same as the clauses of its single
values: one of them must hold, or all of them. A negated key says the opposite, so that none of them
may hold, or one must fail. The empty list is no exception.

* `holds_append_cons` takes a clause out of a conjunction, wherever it stands.
* `Predicate.AsksForOne` and `Predicate.AsksForEach` are the two ways to read a list, and
  `asksForOne_of_holds` and `asksForEach_of_holds` reduce them to a single test.
* `ReadsLists` says how every list key is read, and `readsLists` that all models read them so.
-/

namespace Viewpoint

variable {model : Model} {item : Item} {α : Type}

/-- Criteria of one conjunction are met when it holds. -/
@[simp]
theorem Model.satisfies_all (model : Model) (conjunction : Conjunction) (item : Item) :
    model.satisfies (.all conjunction) item = conjunction.holds model item := by
  simp [satisfies, Criteria.alternatives]

/-- Criteria of several conjunctions are met when one of them holds. -/
@[simp]
theorem Model.satisfies_anyOf (model : Model) (alternatives : List Conjunction) (item : Item) :
    model.satisfies (.anyOf alternatives) item =
      alternatives.any (Conjunction.holds model item) := rfl

/-- Clauses hold together with others when both do. -/
theorem Conjunction.holds_append (left right : List Clause) :
    Conjunction.holds model item ⟨left ++ right⟩ =
      (Conjunction.holds model item ⟨left⟩ && Conjunction.holds model item ⟨right⟩) :=
  List.all_append

/-- A clause holds among others when it holds and they do, wherever it stands. -/
theorem Conjunction.holds_append_cons (clause : Clause) (before after : List Clause) :
    Conjunction.holds model item ⟨before ++ clause :: after⟩ =
      (clause.holds model item && Conjunction.holds model item ⟨before ++ after⟩) := by
  simp only [holds, List.all_append, List.all_cons]
  exact Bool.and_left_comm _ _ _

/-- Clauses hold in any order if they do in one. -/
theorem Conjunction.holds_perm {clauses clauses' : List Clause} (h : clauses.Perm clauses') :
    Conjunction.holds model item ⟨clauses⟩ = Conjunction.holds model item ⟨clauses'⟩ :=
  h.all_eq

namespace Predicate

/-- A list key asks for one of its values. Among any further clauses it stands for the choice
between the clauses of the single values, and a negated key for all of them, negated. -/
structure AsksForOne (model : Model) (item : Item) (list : List α → Predicate)
    (single : α → Predicate) : Prop where
  /-- The key must hold. -/
  required : ∀ values before after,
    model.satisfies (.all ⟨before ++ ⟨list values, false⟩ :: after⟩) item =
      model.satisfies
        (.anyOf (values.map fun value => ⟨before ++ ⟨single value, false⟩ :: after⟩)) item
  /-- The key must fail. -/
  negated : ∀ values before after,
    model.satisfies (.all ⟨before ++ ⟨list values, true⟩ :: after⟩) item =
      model.satisfies
        (.all ⟨before ++ (values.map fun value => ⟨single value, true⟩) ++ after⟩) item

/-- A list key asks for each of its values. Among any further clauses it stands for all clauses of
the single values, and a negated key for the choice between them, negated. -/
structure AsksForEach (model : Model) (item : Item) (list : List α → Predicate)
    (single : α → Predicate) : Prop where
  /-- The key must hold. -/
  required : ∀ values before after,
    model.satisfies (.all ⟨before ++ ⟨list values, false⟩ :: after⟩) item =
      model.satisfies
        (.all ⟨before ++ (values.map fun value => ⟨single value, false⟩) ++ after⟩) item
  /-- The key must fail. -/
  negated : ∀ values before after,
    model.satisfies (.all ⟨before ++ ⟨list values, true⟩ :: after⟩) item =
      model.satisfies
        (.anyOf (values.map fun value => ⟨before ++ ⟨single value, true⟩ :: after⟩)) item

variable {list : List α → Predicate} {single : α → Predicate}

/-- Alternatives that differ in one clause hold when the rest does and one of the clauses. -/
theorem any_holds_between (clauseOf : α → Clause) (values : List α) (before after : List Clause) :
    model.satisfies (.anyOf (values.map fun value => ⟨before ++ clauseOf value :: after⟩)) item =
      (values.any (fun value => (clauseOf value).holds model item) &&
        Conjunction.holds model item ⟨before ++ after⟩) := by
  rw [Model.satisfies_anyOf, List.any_map]
  show (values.any fun value =>
    Conjunction.holds model item ⟨before ++ clauseOf value :: after⟩) = _
  simp only [Conjunction.holds_append_cons]
  induction values with
  | nil => simp
  | cons value values ih => rw [List.any_cons, List.any_cons, ih, Bool.and_or_distrib_right]

/-- Clauses that stand side by side hold when each of them does and the rest. -/
theorem holds_each_between (clauseOf : α → Clause) (values : List α) (before after : List Clause) :
    model.satisfies (.all ⟨before ++ values.map clauseOf ++ after⟩) item =
      (values.all (fun value => (clauseOf value).holds model item) &&
        Conjunction.holds model item ⟨before ++ after⟩) := by
  rw [Model.satisfies_all, Conjunction.holds_append, Conjunction.holds_append,
    Conjunction.holds_append, Bool.and_assoc, Bool.and_left_comm]
  simp [Conjunction.holds, List.all_map, Function.comp_def]

/-- A list key asks for one of its values if it holds when one of them does. -/
theorem asksForOne_of_holds (h : ∀ values, (list values).holds model item =
    values.any fun value => (single value).holds model item) :
    AsksForOne model item list single where
  required values before after := by
    rw [any_holds_between (fun value => ⟨single value, false⟩), Model.satisfies_all,
      Conjunction.holds_append_cons]
    simp [Clause.holds, h]
  negated values before after := by
    rw [holds_each_between (fun value => ⟨single value, true⟩), Model.satisfies_all,
      Conjunction.holds_append_cons]
    simp [Clause.holds, h, List.not_any_eq_all_not]

/-- A list key asks for each of its values if it holds when all of them do. -/
theorem asksForEach_of_holds (h : ∀ values, (list values).holds model item =
    values.all fun value => (single value).holds model item) :
    AsksForEach model item list single where
  required values before after := by
    rw [holds_each_between (fun value => ⟨single value, false⟩), Model.satisfies_all,
      Conjunction.holds_append_cons]
    simp [Clause.holds, h]
  negated values before after := by
    rw [any_holds_between (fun value => ⟨single value, true⟩), Model.satisfies_all,
      Conjunction.holds_append_cons]
    simp [Clause.holds, h, List.not_all_eq_any_not]

end Predicate

/-- A list of characters occurs within itself. -/
theorem occursWithin_self (text : List Char) : occursWithin text text = true := by
  cases text with
  | nil => rfl
  | cons c rest => simp [occursWithin]

/-- A text that is one of the technologies is contained in one. -/
theorem Predicate.holds_tech_of_techs {text : String}
    (h : (Predicate.techs [text]).holds model item = true) :
    (Predicate.tech text).holds model item = true := by
  have hmem : text ∈ item.tech := by simpa [holds] using h
  exact List.any_eq_true.2 ⟨text, hmem, occursWithin_self text.toList⟩

/-- How the keys that take a list are read. -/
structure ReadsLists (model : Model) (item : Item) : Prop where
  /-- The kind is one of those listed. -/
  kinds : Predicate.AsksForOne model item .kinds .kind
  /-- The name is one of those listed. -/
  ids : Predicate.AsksForOne model item .ids .id
  /-- The namespace is one of those listed. -/
  nameSpaces : Predicate.AsksForOne model item .nameSpaces .nameSpace
  /-- The maturity or its absence is one of those listed. -/
  maturities : Predicate.AsksForOne model item .maturities .maturity
  /-- One of the tags listed is there. -/
  tags : Predicate.AsksForOne model item .tags .tag
  /-- Each of the tags listed is there. -/
  allTags : Predicate.AsksForEach model item .allTags .tag
  /-- One of the technologies listed is there. -/
  techs : Predicate.AsksForOne model item .techs fun tech => .techs [tech]
  /-- Each of the technologies listed is there. -/
  allTechs : Predicate.AsksForEach model item .allTechs fun tech => .techs [tech]
  /-- A technology that is there is contained in one that is there, whatever else is asked for. -/
  tech_of_techs : ∀ tech before after,
    model.satisfies (.all ⟨before ++ ⟨.techs [tech], false⟩ :: after⟩) item = true →
      model.satisfies (.all ⟨before ++ ⟨.tech tech, false⟩ :: after⟩) item = true
  /-- The order of the clauses does not matter. -/
  order : ∀ clauses clauses' : List Clause, clauses.Perm clauses' →
    model.satisfies (.all ⟨clauses⟩) item = model.satisfies (.all ⟨clauses'⟩) item

/-- Every model reads the keys that take a list value by value. -/
theorem readsLists (model : Model) (item : Item) : ReadsLists model item where
  kinds := Predicate.asksForOne_of_holds fun _ => rfl
  ids := Predicate.asksForOne_of_holds fun values => by
    simp only [Predicate.holds, List.contains_eq_any_beq, beq_eq_decide]
  nameSpaces := Predicate.asksForOne_of_holds fun _ => rfl
  maturities := Predicate.asksForOne_of_holds fun values => by
    simp only [Predicate.holds, List.contains_eq_any_beq, beq_eq_decide]
  tags := Predicate.asksForOne_of_holds fun _ => rfl
  allTags := Predicate.asksForEach_of_holds fun _ => rfl
  techs := Predicate.asksForOne_of_holds fun values => by
    simp only [Predicate.holds, List.any_cons, List.any_nil, Bool.or_false]
  allTechs := Predicate.asksForEach_of_holds fun values => by
    simp only [Predicate.holds, List.any_cons, List.any_nil, Bool.or_false]
  tech_of_techs tech before after h := by
    rw [Model.satisfies_all, Conjunction.holds_append_cons, Bool.and_eq_true] at h ⊢
    refine ⟨?_, h.2⟩
    have htechs : (Predicate.techs [tech]).holds model item = true := by
      simpa [Clause.holds] using h.1
    simpa [Clause.holds] using Predicate.holds_tech_of_techs htechs
  order clauses clauses' h := by
    rw [Model.satisfies_all, Model.satisfies_all, Conjunction.holds_perm h]

end Viewpoint
