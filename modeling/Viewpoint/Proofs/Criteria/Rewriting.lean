import Mathlib.Data.List.Forall2
import Mathlib.Logic.Relation
import Viewpoint.Proofs.Criteria.ListKeys
import Viewpoint.Proofs.Criteria.Reading

/-!
# Criteria written in other ways

The same criteria can be written in many ways. The entries of a map and the maps of a list may stand
in any order, a map may be listed again, and a single map may be put into a list. None of this
decides whether criteria can be read or what they ask for: an entry is read on its own, a map asks
for all of its entries, and a list for one of its maps. Only which error is reported may change, as
that is the one of the first entry that is refused.

* `CriteriaDecl.Rewrites` is one change of the writing and `CriteriaDecl.Rewritten` any number of
  them. `CriteriaDecl.SameMaps` is what a change keeps and so does any number.
* `satisfies_of_criteria` says what criteria ask for as they are written.
* `SameMaps.exists_criteria_iff` and `SameMaps.satisfies_eq` say that criteria with the same maps
  are read alike and ask for the same.
-/

namespace Viewpoint

/-- In lists whose members are related in pairs, each member is related to one of the other list. -/
theorem exists_mem_of_forall₂ {α β : Type} {rel : α → β → Prop} {left : List α} {right : List β}
    (h : List.Forall₂ rel left right) {a : α} (ha : a ∈ left) : ∃ b ∈ right, rel a b := by
  induction h with
  | nil => cases ha
  | cons hab _ ih =>
    rcases List.mem_cons.1 ha with rfl | ha
    · exact ⟨_, List.mem_cons_self, hab⟩
    · obtain ⟨b, hb, hrel⟩ := ih ha
      exact ⟨b, List.mem_cons_of_mem _ hb, hrel⟩

namespace CriteriaDecl

/-- The maps of criteria: a single one, or those of a list. -/
def maps : CriteriaDecl → List (List ClauseDecl)
  | all clauses => [clauses]
  | anyOf alternatives => alternatives

/-- One change to the way in which criteria are written. -/
inductive Rewrites : CriteriaDecl → CriteriaDecl → Prop
  /-- The entries of a single map in another order. -/
  | entries {clauses clauses' : List ClauseDecl} (h : clauses.Perm clauses') :
    Rewrites (.all clauses) (.all clauses')
  /-- The entries of each map of a list in another order. -/
  | entriesOfEach {alternatives alternatives' : List (List ClauseDecl)}
    (h : List.Forall₂ List.Perm alternatives alternatives') :
    Rewrites (.anyOf alternatives) (.anyOf alternatives')
  /-- The maps of a list in another order. -/
  | maps {alternatives alternatives' : List (List ClauseDecl)}
    (h : alternatives.Perm alternatives') : Rewrites (.anyOf alternatives) (.anyOf alternatives')
  /-- A map of a list listed once more, at any place. -/
  | repeated {before after : List (List ClauseDecl)} {clauses : List ClauseDecl}
    (h : clauses ∈ before ++ after) :
    Rewrites (.anyOf (before ++ after)) (.anyOf (before ++ clauses :: after))
  /-- A single map put into a list. -/
  | wrapped (clauses : List ClauseDecl) : Rewrites (.all clauses) (.anyOf [clauses])

/-- The second criteria are the first ones in another writing: any number of changes lead from one
to the other, each of them made or undone. -/
def Rewritten : CriteriaDecl → CriteriaDecl → Prop :=
  Relation.EqvGen Rewrites

/-- Two criteria have the same maps, whatever the order of their entries, the order of the maps and
the number of times that each is listed. -/
structure SameMaps (decl decl' : CriteriaDecl) : Prop where
  /-- Each map of the first has the entries of one of the second. -/
  forth : ∀ clauses ∈ decl.maps, ∃ clauses' ∈ decl'.maps, clauses.Perm clauses'
  /-- Each map of the second has the entries of one of the first. -/
  back : ∀ clauses' ∈ decl'.maps, ∃ clauses ∈ decl.maps, clauses.Perm clauses'

namespace SameMaps

variable {decl decl' decl'' : CriteriaDecl}

theorem refl (decl : CriteriaDecl) : SameMaps decl decl where
  forth clauses h := ⟨clauses, h, .refl clauses⟩
  back clauses h := ⟨clauses, h, .refl clauses⟩

theorem symm (h : SameMaps decl decl') : SameMaps decl' decl where
  forth clauses' hclauses' := by
    obtain ⟨clauses, hclauses, hperm⟩ := h.back clauses' hclauses'
    exact ⟨clauses, hclauses, hperm.symm⟩
  back clauses hclauses := by
    obtain ⟨clauses', hclauses', hperm⟩ := h.forth clauses hclauses
    exact ⟨clauses', hclauses', hperm.symm⟩

theorem trans (h : SameMaps decl decl') (h' : SameMaps decl' decl'') : SameMaps decl decl'' where
  forth clauses hclauses := by
    obtain ⟨clauses', hclauses', hperm⟩ := h.forth clauses hclauses
    obtain ⟨clauses'', hclauses'', hperm'⟩ := h'.forth clauses' hclauses'
    exact ⟨clauses'', hclauses'', hperm.trans hperm'⟩
  back clauses'' hclauses'' := by
    obtain ⟨clauses', hclauses', hperm'⟩ := h'.back clauses'' hclauses''
    obtain ⟨clauses, hclauses, hperm⟩ := h.back clauses' hclauses'
    exact ⟨clauses, hclauses, hperm.trans hperm'⟩

/-- Lists of maps that have the same members are alike. -/
theorem of_mem_iff {alternatives alternatives' : List (List ClauseDecl)}
    (h : ∀ clauses, clauses ∈ alternatives ↔ clauses ∈ alternatives') :
    SameMaps (.anyOf alternatives) (.anyOf alternatives') where
  forth clauses hclauses := ⟨clauses, (h clauses).1 hclauses, .refl clauses⟩
  back clauses hclauses := ⟨clauses, (h clauses).2 hclauses, .refl clauses⟩

/-- One change of the writing keeps the maps. -/
theorem of_rewrites (h : Rewrites decl decl') : SameMaps decl decl' := by
  cases h with
  | @entries clauses clauses' h =>
    exact ⟨fun _ hmem => ⟨clauses', by simp [maps], List.mem_singleton.1 hmem ▸ h⟩,
      fun _ hmem => ⟨clauses, by simp [maps], List.mem_singleton.1 hmem ▸ h⟩⟩
  | entriesOfEach h =>
    refine ⟨fun _ hmem => exists_mem_of_forall₂ h hmem, fun _ hmem => ?_⟩
    have hback : List.Forall₂ (flip List.Perm) _ _ := h.flip
    exact exists_mem_of_forall₂ hback hmem
  | maps h => exact of_mem_iff fun _ => h.mem_iff
  | @repeated before after clauses h =>
    refine of_mem_iff fun other => ?_
    rw [List.perm_middle.mem_iff, List.mem_cons]
    exact ⟨Or.inr, fun hother => hother.elim (fun heq => heq ▸ h) id⟩
  | wrapped clauses =>
    exact ⟨fun clauses hmem => ⟨clauses, hmem, .refl clauses⟩,
      fun clauses hmem => ⟨clauses, hmem, .refl clauses⟩⟩

/-- So does any number of changes. -/
theorem of_rewritten (h : Rewritten decl decl') : SameMaps decl decl' := by
  induction h with
  | rel decl decl' h => exact of_rewrites h
  | refl decl => exact refl decl
  | symm decl decl' _ ih => exact ih.symm
  | trans decl decl' decl'' _ _ ih ih' => exact ih.trans ih'

end SameMaps

theorem mem_entries_iff {decl : CriteriaDecl} {entry : ClauseDecl} :
    entry ∈ decl.entries ↔ ∃ clauses ∈ decl.maps, entry ∈ clauses := by
  cases decl with
  | all clauses => simp [entries, maps]
  | anyOf alternatives => simp [entries, maps]

end CriteriaDecl

section Meaning

variable [PatternEngine] {model : Model} {item : Item} {decl decl' : CriteriaDecl}
  {criteria criteria' : Criteria}

/-- Whether what an entry asks for holds of an item; an entry that is refused asks for nothing that
holds. -/
def ClauseDecl.holds (model : Model) (item : Item) (entry : ClauseDecl) : Bool :=
  match entry.clause with
  | .ok clause => clause.holds model item
  | .error _ => false

/-- The clauses of a map hold when all of its entries do. -/
theorem holds_of_readConjunction {clauses : List ClauseDecl} {conjunction : Conjunction}
    (h : readConjunction clauses = .ok conjunction) :
    conjunction.holds model item = clauses.all (ClauseDecl.holds model item) := by
  obtain ⟨read, hread, h⟩ := exists_of_bind_eq_ok h
  cases h
  have hmap : read.map (Clause.holds model item) = clauses.map (ClauseDecl.holds model item) := by
    refine map_eq_map_of_mapM_eq_ok hread fun entry clause hclause => ?_
    rw [ClauseDecl.holds, hclause]
  calc Conjunction.holds model item ⟨read⟩
      = (read.map (Clause.holds model item)).all id := by rw [List.all_map]; rfl
    _ = (clauses.map (ClauseDecl.holds model item)).all id := by rw [hmap]
    _ = clauses.all (ClauseDecl.holds model item) := by rw [List.all_map]; rfl

/-- Criteria are met when all entries of one of their maps hold. -/
theorem satisfies_of_criteria (h : decl.criteria = .ok criteria) :
    model.satisfies criteria item =
      decl.maps.any fun clauses => clauses.all (ClauseDecl.holds model item) := by
  cases decl with
  | all clauses =>
    obtain ⟨conjunction, hread, h⟩ := exists_of_bind_eq_ok h
    cases h
    rw [Model.satisfies_all, holds_of_readConjunction hread]
    simp [CriteriaDecl.maps]
  | anyOf alternatives =>
    obtain ⟨conjunctions, hread, h⟩ := exists_of_bind_eq_ok h
    cases h
    have hmap : conjunctions.map (Conjunction.holds model item) =
        alternatives.map fun clauses => clauses.all (ClauseDecl.holds model item) :=
      map_eq_map_of_mapM_eq_ok hread fun _ _ => holds_of_readConjunction
    calc model.satisfies (.anyOf conjunctions) item
        = (conjunctions.map (Conjunction.holds model item)).any id := by rw [List.any_map]; rfl
      _ = (alternatives.map fun clauses => clauses.all (ClauseDecl.holds model item)).any id := by
        rw [hmap]
      _ = alternatives.any fun clauses => clauses.all (ClauseDecl.holds model item) := by
        rw [List.any_map]; rfl

namespace CriteriaDecl.SameMaps

/-- Criteria with the same maps have the same entries, and so they are read alike. -/
theorem exists_criteria_iff (h : SameMaps decl decl') :
    (∃ criteria, decl'.criteria = .ok criteria) ↔ ∃ criteria, decl.criteria = .ok criteria := by
  have hentries : ∀ {left right : CriteriaDecl}, SameMaps left right →
      ∀ entry ∈ left.entries, entry ∈ right.entries := by
    intro left right hsame entry hentry
    obtain ⟨clauses, hclauses, hmem⟩ := mem_entries_iff.1 hentry
    obtain ⟨clauses', hclauses', hperm⟩ := hsame.forth clauses hclauses
    exact mem_entries_iff.2 ⟨clauses', hclauses', hperm.mem_iff.1 hmem⟩
  rw [decl.exists_criteria_iff, decl'.exists_criteria_iff]
  exact ⟨fun hall entry hentry => hall entry (hentries h entry hentry),
    fun hall entry hentry => hall entry (hentries h.symm entry hentry)⟩

/-- Criteria with the same maps ask for the same. -/
theorem satisfies_eq (h : SameMaps decl decl') (hread : decl.criteria = .ok criteria)
    (hread' : decl'.criteria = .ok criteria') (model : Model) (item : Item) :
    model.satisfies criteria' item = model.satisfies criteria item := by
  have hmet : ∀ {left right : CriteriaDecl}, SameMaps left right →
      (left.maps.any fun clauses => clauses.all (ClauseDecl.holds model item)) = true →
        (right.maps.any fun clauses => clauses.all (ClauseDecl.holds model item)) = true := by
    intro left right hsame hany
    obtain ⟨clauses, hclauses, hall⟩ := List.any_eq_true.1 hany
    obtain ⟨clauses', hclauses', hperm⟩ := hsame.forth clauses hclauses
    exact List.any_eq_true.2 ⟨clauses', hclauses', hperm.all_eq ▸ hall⟩
  rw [satisfies_of_criteria hread, satisfies_of_criteria hread', Bool.eq_iff_iff]
  exact ⟨hmet h.symm, hmet h⟩

end CriteriaDecl.SameMaps

end Meaning

end Viewpoint
