import Viewpoint.Proofs.Criteria.Vacuous

/-!
# Criteria that ask for nothing

Criteria are noted when some alternative has no clauses. All items of all models meet these, but so
they do others, as clauses may say nothing though they are there. One alternative is met by
everything exactly when all its clauses are such.

For several alternatives this is not so, as two of them may share the items between them. But few
clauses let bystanders pass, and if everything meets criteria, so do bystanders.

* `Criteria.AcceptsAll` says that all items of all models that are built meet criteria.
* `Clause.IsVacuous` are the clauses that say nothing, and `Clause.passesBystanders` those that let
  bystanders pass.
* `ChecksRestriction` relates the check to what criteria are met by, and `checksRestriction` says
  that it does so for all criteria.
-/

namespace Viewpoint

/-- Every item of every model that is built meets the criteria. -/
def Criteria.AcceptsAll (criteria : Criteria) : Prop :=
  ∀ sources built, (Model.build sources).value = .ok built →
    ∀ item ∈ built.model.items, built.model.satisfies criteria item = true

/-- The items of models that are built are those that occur. -/
theorem acceptsAll_iff {criteria : Criteria} : criteria.AcceptsAll ↔
    ∀ model item, Occurs model item → model.satisfies criteria item = true := by
  constructor
  · rintro h model item ⟨⟨sources, built, hbuilt, rfl⟩, hitem⟩
    exact h sources built hbuilt item hitem
  · intro h sources built hbuilt item hitem
    exact h built.model item ⟨⟨sources, built, hbuilt, rfl⟩, hitem⟩

/-- Clauses that every item passes. -/
def Clause.IsVacuous (clause : Clause) : Prop :=
  if clause.negated then clause.predicate.IsNever else clause.predicate.IsAlways

/-- Whether an element passes that has nothing but a name and a kind, none of which are those that
the clause mentions. -/
def Clause.passesBystanders (clause : Clause) : Bool :=
  clause.predicate.onBystanders != clause.negated

variable {model : Model} {item : Item}

/-- A clause fails for some item unless it is vacuous. -/
theorem Clause.exists_fails_iff {clause : Clause} :
    (∃ model item, Occurs model item ∧ clause.holds model item = false) ↔ ¬ clause.IsVacuous := by
  have hyields : (∃ model item, Occurs model item ∧ clause.holds model item = false) ↔
      clause.predicate.Yields clause.negated := by
    simp only [Clause.holds, bne_eq_false_iff_eq, Predicate.Yields]
  rw [hyields, Clause.IsVacuous]
  cases clause.negated with
  | false => exact Predicate.yields_false_iff
  | true => exact Predicate.yields_true_iff

/-- A vacuous clause holds of everything, whether or not the model is built. -/
theorem Clause.IsVacuous.holds {clause : Clause} (h : clause.IsVacuous) :
    clause.holds model item = true := by
  rw [Clause.IsVacuous] at h
  rw [Clause.holds]
  split at h
  · next hnegated => rw [h.holds, hnegated]; rfl
  · next hnegated => rw [h.holds, Bool.eq_false_iff.2 hnegated]; rfl

variable {criteria : Criteria}

/-- Criteria are met by everything if the clauses of one alternative are vacuous. -/
theorem satisfies_of_isVacuous {alternative : Conjunction}
    (hmem : alternative ∈ criteria.alternatives)
    (h : ∀ clause ∈ alternative.clauses, clause.IsVacuous) :
    model.satisfies criteria item = true :=
  List.any_eq_true.2 ⟨alternative, hmem, List.all_eq_true.2 fun clause hclause =>
    (h clause hclause).holds⟩

/-- One alternative is met by everything exactly when its clauses are vacuous. -/
theorem acceptsAll_iff_of_alternatives_eq {conjunction : Conjunction}
    (h : criteria.alternatives = [conjunction]) :
    criteria.AcceptsAll ↔ ∀ clause ∈ conjunction.clauses, clause.IsVacuous := by
  rw [acceptsAll_iff]
  constructor
  · intro haccepts clause hclause
    refine not_not.1 (mt Clause.exists_fails_iff.2 ?_)
    rintro ⟨model, item, hoccurs, hfails⟩
    have hmet : conjunction.holds model item = true := by
      simpa [Model.satisfies, h] using haccepts model item hoccurs
    rw [List.all_eq_true.1 hmet clause hclause] at hfails
    cases hfails
  · intro hvacuous model item _
    exact satisfies_of_isVacuous (h ▸ List.mem_singleton_self conjunction) hvacuous

/-- Only finitely many bystanders do not decide by their passing whether they meet criteria. -/
theorem eventually_satisfies_bystander (criteria : Criteria) : ∀ᶠ n in Filter.cofinite,
    (bystander n).model.satisfies criteria (.element (bystander n)) =
      criteria.alternatives.any fun alternative =>
        alternative.clauses.all Clause.passesBystanders := by
  have hclause : ∀ᶠ n in Filter.cofinite, ∀ alternative ∈ criteria.alternatives,
      ∀ clause ∈ alternative.clauses,
        clause.holds (bystander n).model (.element (bystander n)) = clause.passesBystanders := by
    refine (Filter.eventually_all_finite (List.finite_toSet _)).2 fun alternative _ =>
      (Filter.eventually_all_finite (List.finite_toSet _)).2 fun clause _ => ?_
    filter_upwards [eventually_holds_bystander clause.predicate] with n hn
    rw [Clause.holds, hn, Clause.passesBystanders]
  filter_upwards [hclause] with n hn
  rw [Bool.eq_iff_iff]
  simp only [Model.satisfies, List.any_eq_true, Conjunction.holds, List.all_eq_true]
  exact exists_congr fun alternative => and_congr_right fun halternative =>
    forall₂_congr fun clause hmem => by rw [hn alternative halternative clause hmem]

/-- If everything meets criteria, bystanders pass all clauses of one alternative. -/
theorem exists_alternative_of_acceptsAll (h : criteria.AcceptsAll) :
    ∃ alternative ∈ criteria.alternatives,
      ∀ clause ∈ alternative.clauses, clause.passesBystanders = true := by
  obtain ⟨n, hn⟩ := (eventually_satisfies_bystander criteria).exists
  rw [acceptsAll_iff.1 h _ _ (occurs_alone rfl)] at hn
  simpa [List.any_eq_true, List.all_eq_true] using hn.symm

/-- Whether some alternative has no clauses. -/
theorem Criteria.isUnrestricted_iff : criteria.isUnrestricted = true ↔
    ∃ alternative ∈ criteria.alternatives, alternative.clauses = [] := by
  simp only [isUnrestricted, List.any_eq_true, Conjunction.isEmpty, List.isEmpty_iff]

/-- How the check for criteria that ask for nothing relates to what everything meets. -/
structure ChecksRestriction (criteria : Criteria) : Prop where
  /-- The check finds criteria with an alternative that has no clauses. -/
  isUnrestricted_iff : criteria.isUnrestricted = true ↔
    ∃ alternative ∈ criteria.alternatives, alternative.clauses = []
  /-- Everything meets them, in whatever model. -/
  accepts : criteria.isUnrestricted = true →
    ∀ (model : Model) item, model.satisfies criteria item = true
  /-- They are noted when they are used, if that is asked for, and no others are. -/
  notices : ∀ (model : Model) settings, (model.matching settings criteria).notices =
    if settings.warnUnrestricted && criteria.isUnrestricted then [criteria.unrestrictedNotice]
    else []
  /-- Everything also meets criteria with an alternative of vacuous clauses. -/
  accepts_of_vacuous : (∃ alternative ∈ criteria.alternatives,
    ∀ clause ∈ alternative.clauses, clause.IsVacuous) → criteria.AcceptsAll
  /-- These are all that it meets among criteria of one alternative. -/
  acceptsAll_iff : ∀ conjunction, criteria.alternatives = [conjunction] →
    (criteria.AcceptsAll ↔ ∀ clause ∈ conjunction.clauses, clause.IsVacuous)
  /-- So the check is right about one alternative without vacuous clauses. -/
  exact_of_conjunction : ∀ conjunction, criteria.alternatives = [conjunction] →
    (∀ clause ∈ conjunction.clauses, ¬ clause.IsVacuous) →
      (criteria.isUnrestricted = true ↔ criteria.AcceptsAll)
  /-- Among several alternatives, everything meets only those one of which bystanders pass. -/
  bystanders_pass : criteria.AcceptsAll → ∃ alternative ∈ criteria.alternatives,
    ∀ clause ∈ alternative.clauses, clause.passesBystanders = true
  /-- So the check is right about alternatives each of which has no clauses or one that stops
  bystanders. -/
  exact_of_alternatives : (∀ alternative ∈ criteria.alternatives, alternative.clauses = [] ∨
      ∃ clause ∈ alternative.clauses, clause.passesBystanders = false) →
    (criteria.isUnrestricted = true ↔ criteria.AcceptsAll)

/-- The check finds criteria that everything meets, and finds all of them where clauses say
something and alternatives do not share the items between them. -/
theorem checksRestriction (criteria : Criteria) : ChecksRestriction criteria := by
  have haccepts : criteria.isUnrestricted = true →
      ∀ (model : Model) item, model.satisfies criteria item = true := by
    intro hunrestricted model item
    obtain ⟨alternative, hmem, hempty⟩ := Criteria.isUnrestricted_iff.1 hunrestricted
    exact satisfies_of_isVacuous hmem (by simp [hempty])
  have hacceptsAll : criteria.isUnrestricted = true → criteria.AcceptsAll :=
    fun hunrestricted _ built _ item _ => haccepts hunrestricted built.model item
  refine
    { isUnrestricted_iff := Criteria.isUnrestricted_iff
      accepts := haccepts
      notices := ?_
      accepts_of_vacuous := ?_
      acceptsAll_iff := fun _ => acceptsAll_iff_of_alternatives_eq
      exact_of_conjunction := ?_
      bystanders_pass := exists_alternative_of_acceptsAll
      exact_of_alternatives := ?_ }
  · intro model settings
    rw [Model.matching]
    split <;> rfl
  · rintro ⟨alternative, hmem, hvacuous⟩ _ built _ item _
    exact satisfies_of_isVacuous hmem hvacuous
  · intro conjunction halternatives hsays
    refine ⟨hacceptsAll, fun h => ?_⟩
    -- all clauses are vacuous and none is, so there is none
    rw [acceptsAll_iff_of_alternatives_eq halternatives] at h
    refine Criteria.isUnrestricted_iff.2 ⟨conjunction, by simp [halternatives], ?_⟩
    exact List.eq_nil_iff_forall_not_mem.2 fun clause hclause =>
      hsays clause hclause (h clause hclause)
  · intro hstops
    refine ⟨hacceptsAll, fun h => ?_⟩
    obtain ⟨alternative, hmem, hpass⟩ := exists_alternative_of_acceptsAll h
    refine Criteria.isUnrestricted_iff.2 ⟨alternative, hmem, ?_⟩
    rcases hstops alternative hmem with hempty | ⟨clause, hclause, hstop⟩
    · exact hempty
    · rw [hpass clause hclause] at hstop
      cases hstop

/-- Everything meets the criteria that ask for a namespace below the empty path, but they are not
found to ask for nothing and are never noted. -/
theorem unnoted_empty_prefix :
    (Predicate.nameSpacePrefix "").alone.AcceptsAll ∧
      (Predicate.nameSpacePrefix "").alone.isUnrestricted = false ∧
      ∀ (model : Model) settings,
        (model.matching settings (Predicate.nameSpacePrefix "").alone).notices = [] := by
  have hcheck : (Predicate.nameSpacePrefix "").alone.isUnrestricted = false := rfl
  refine ⟨?_, hcheck, ?_⟩
  · intro sources built _ item _
    have hempty : (Predicate.nameSpacePrefix "").IsAlways := rfl
    rw [Model.satisfies_alone, hempty.holds]
  · intro model settings
    simp [Model.matching, hcheck]

end Viewpoint
