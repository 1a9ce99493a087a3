import Mathlib.Tactic.TFAE
import Viewpoint.Criteria.Matching
import Viewpoint.Proofs.Model.Walks

/-!
# Converse predicates

Six predicates compare an item with a named element: four ask how the two lie inside one another and
two ask for a relation between them. They come in pairs that ask the same question from both ends.
The members of a pair are decided by different walks and look-ups, and they agree with one another,
with what the model lists around an element and with its resolved relations.

* `ConversePredicates` says what the predicates have in common.
* `conversePredicates_of_build` says that this holds in every model that is built.
-/

namespace Viewpoint

namespace Predicate

/-- The criteria that ask for one predicate and nothing else. -/
def alone (predicate : Predicate) : Criteria :=
  .all (Conjunction.and {} predicate)

/-- The predicates that ask how an item and an element lie inside one another. -/
def aboutContainment (id : Ident) : List Predicate :=
  [.childOf id, .parentOf id, .descendantOf id, .ancestorOf id]

/-- The predicates that ask for a relation between an item and an element. -/
def aboutReferences (id : Ident) : List Predicate :=
  [.refersTo id, .referredBy id]

end Predicate

/-- An item meets the criteria of one predicate when the predicate holds. -/
@[simp]
theorem Model.satisfies_alone (model : Model) (predicate : Predicate) (item : Item) :
    model.satisfies predicate.alone item = predicate.holds model item := by
  simp [satisfies, Predicate.alone, Criteria.alternatives, Conjunction.holds, Conjunction.and,
    Clause.holds]

/-- The predicates about two elements ask the same from both ends, and they agree with what the
model says of the two. -/
structure ConversePredicates (model : Model) : Prop where
  /-- An element is a child of another one exactly when that one is its parent. -/
  direct : ∀ a b : Element,
    [model.satisfies (Predicate.childOf b.id).alone (.element a) = true,
      model.satisfies (Predicate.parentOf a.id).alone (.element b) = true,
      a.id ∈ model.children b.id,
      model.parent? a.id = some b.id].TFAE
  /-- An element is a descendant of another one exactly when that one is its ancestor, which is when
  going from holder to holder leads there. -/
  deep : ∀ a b : Element,
    [model.satisfies (Predicate.descendantOf b.id).alone (.element a) = true,
      model.satisfies (Predicate.ancestorOf a.id).alone (.element b) = true,
      a.id ∈ model.descendants b.id,
      b.id ∈ model.ancestors a.id,
      LeadsTo model.parent? a.id b.id].TFAE
  /-- An element refers to another one exactly when that one is referred to by it, which is when a
  resolved relation goes from the one to the other. -/
  related : ∀ a b : Element,
    [model.satisfies (Predicate.refersTo b.id).alone (.element a) = true,
      model.satisfies (Predicate.referredBy a.id).alone (.element b) = true,
      ∃ r ∈ model.relations, r.source = a.id ∧ r.target = b.id].TFAE
  /-- Relations lie in nothing and hold nothing. -/
  relation_outside : ∀ (r : Relation) (id : Ident), ∀ predicate ∈ Predicate.aboutContainment id,
    model.satisfies predicate.alone (.relation r) = false
  /-- No element lies in a name that is not that of an element, holds it or is related to it. -/
  unknown_apart : ∀ id, model.element? id = none → ∀ e : Element,
    ∀ predicate ∈ Predicate.aboutContainment id ++ Predicate.aboutReferences id,
      model.satisfies predicate.alone (.element e) = false

variable {items : List Item} {id : Ident} {a b : Element}

/-- In an assembled model there is no element under the names that no declared element has. -/
theorem element?_assemble_eq_none_iff :
    (Model.assemble items).element? id = none ↔ isElementOf items id = false := by
  rw [← isSome_element?_assemble, Option.isSome_eq_false_iff, Option.isNone_iff_eq_none]

/-- A name without an element has no holder. -/
theorem parent?_of_element?_none (h : (Model.assemble items).element? id = none) :
    (Model.assemble items).parent? id = none := by
  rw [element?_assemble_eq_none_iff] at h
  refine Option.eq_none_iff_forall_ne_some.2 fun parent hparent => ?_
  rw [(isElementOf_of_parent? hparent).1] at h
  cases h

/-- A name without an element holds nothing. -/
theorem parent?_ne_of_element?_none (h : (Model.assemble items).element? id = none)
    (child : Ident) : (Model.assemble items).parent? child ≠ some id := by
  rw [element?_assemble_eq_none_iff] at h
  intro hparent
  rw [(isElementOf_of_parent? hparent).2] at h
  cases h

/-- A resolved relation has elements at both of its ends. -/
theorem ends_ne_of_element?_none (h : (Model.assemble items).element? id = none) {r : Relation}
    (hr : r ∈ (Model.assemble items).relations) : r.source ≠ id ∧ r.target ≠ id := by
  rw [element?_assemble_eq_none_iff] at h
  have hresolved : isElementOf items r.source = true ∧ isElementOf items r.target = true := by
    rw [← Bool.and_eq_true]
    exact (List.mem_filter.1 hr).2
  constructor
  · rintro rfl
    rw [hresolved.1] at h
    cases h
  · rintro rfl
    rw [hresolved.2] at h
    cases h

/-- An element leads to another one by a resolved relation between them. -/
theorem leadsTo_element_iff :
    (Model.assemble items).leadsTo (.element a) id = true ↔
      ∃ r ∈ (Model.assemble items).relations, r.source = a.id ∧ r.target = id := by
  simp only [Model.leadsTo, Model.relationsFrom_assemble, List.any_eq_true, List.mem_filter,
    decide_eq_true_eq, and_assoc]

/-- An element is led to from another one by a resolved relation between them. -/
theorem ledToFrom_element_iff :
    (Model.assemble items).ledToFrom (.element b) id = true ↔
      ∃ r ∈ (Model.assemble items).relations, r.source = id ∧ r.target = b.id := by
  simp only [Model.ledToFrom, Model.relationsTo_assemble, List.any_eq_true, List.mem_filter,
    decide_eq_true_eq, and_assoc]
  exact exists_congr fun r => and_congr_right' and_comm

/-- Which of two elements directly holds the other may be asked of either. -/
theorem tfae_direct (model : Model) (a b : Element) :
    [model.satisfies (Predicate.childOf b.id).alone (.element a) = true,
      model.satisfies (Predicate.parentOf a.id).alone (.element b) = true,
      a.id ∈ model.children b.id,
      model.parent? a.id = some b.id].TFAE := by
  have hmem : a.id ∈ model.children b.id ↔ model.parent? a.id = some b.id :=
    Containment.mem_children_iff
  tfae_have 1 ↔ 4 := by
    rw [Model.satisfies_alone, Predicate.holds, Item.isElement, Bool.true_and]
    exact decide_eq_true_iff
  tfae_have 2 ↔ 4 := by
    rw [Model.satisfies_alone, Predicate.holds, Item.isElement, Bool.true_and]
    exact decide_eq_true_iff
  tfae_have 3 ↔ 4 := hmem
  tfae_finish

/-- Where no walk of holders returns, which of two elements lies inside the other may be asked of
either. -/
theorem tfae_deep (hacyclic : ∀ id, ¬ LeadsTo (Model.assemble items).parent? id id)
    (a b : Element) :
    [(Model.assemble items).satisfies (Predicate.descendantOf b.id).alone (.element a) = true,
      (Model.assemble items).satisfies (Predicate.ancestorOf a.id).alone (.element b) = true,
      a.id ∈ (Model.assemble items).descendants b.id,
      b.id ∈ (Model.assemble items).ancestors a.id,
      LeadsTo (Model.assemble items).parent? a.id b.id].TFAE := by
  have hplaces := placesElements_assemble items
  -- an element does not lie inside itself, so the two lists leave nothing out
  have hne : LeadsTo (Model.assemble items).parent? a.id b.id → a.id ≠ b.id := by
    intro hleads heq
    rw [heq] at hleads
    exact hacyclic b.id hleads
  tfae_have 1 ↔ 5 := by
    rw [Model.satisfies_alone, Predicate.holds, Item.isElement, Bool.true_and]
    exact hplaces.isAncestor_iff
  tfae_have 2 ↔ 5 := by
    rw [Model.satisfies_alone, Predicate.holds, Item.isElement, Bool.true_and]
    exact hplaces.isAncestor_iff
  tfae_have 3 ↔ 5 := hplaces.mem_descendants_iff.trans (and_iff_right_of_imp hne)
  tfae_have 4 ↔ 5 :=
    hplaces.mem_ancestors_iff.trans (and_iff_right_of_imp fun hleads => (hne hleads).symm)
  tfae_finish

/-- Which of two elements is related to the other may be asked of either. -/
theorem tfae_related (items : List Item) (a b : Element) :
    [(Model.assemble items).satisfies (Predicate.refersTo b.id).alone (.element a) = true,
      (Model.assemble items).satisfies (Predicate.referredBy a.id).alone (.element b) = true,
      ∃ r ∈ (Model.assemble items).relations, r.source = a.id ∧ r.target = b.id].TFAE := by
  tfae_have 1 ↔ 3 := by
    rw [Model.satisfies_alone, Predicate.holds]
    exact leadsTo_element_iff
  tfae_have 2 ↔ 3 := by
    rw [Model.satisfies_alone, Predicate.holds]
    exact ledToFrom_element_iff
  tfae_finish

/-- No predicate about containment holds of a relation. -/
theorem holds_relation_of_aboutContainment {model : Model} {r : Relation} {predicate : Predicate}
    (h : predicate ∈ Predicate.aboutContainment id) :
    predicate.holds model (.relation r) = false := by
  simp only [Predicate.aboutContainment, List.mem_cons, List.not_mem_nil, or_false] at h
  rcases h with rfl | rfl | rfl | rfl <;> rfl

/-- No predicate about a name without an element holds of an element. -/
theorem holds_element_of_element?_none (h : (Model.assemble items).element? id = none)
    {e : Element} {predicate : Predicate}
    (hpredicate : predicate ∈ Predicate.aboutContainment id ++ Predicate.aboutReferences id) :
    predicate.holds (Model.assemble items) (.element e) = false := by
  have hparent := parent?_of_element?_none h
  have hchild := parent?_ne_of_element?_none h
  have hplaces := placesElements_assemble items
  have habove : (Model.assemble items).isAncestor e.id id = false := by
    refine Bool.eq_false_iff.2 fun hancestor => ?_
    obtain ⟨holder, hholder⟩ := (hplaces.isAncestor_iff.1 hancestor).exists_next
    exact absurd (hparent.symm.trans hholder) (by simp)
  have hbelow : (Model.assemble items).isAncestor id e.id = false := by
    refine Bool.eq_false_iff.2 fun hancestor => ?_
    obtain ⟨child, hheld⟩ := (hplaces.isAncestor_iff.1 hancestor).exists_last
    exact hchild child hheld
  have hfrom : (Model.assemble items).leadsTo (.element e) id = false := by
    refine Bool.eq_false_iff.2 fun hleads => ?_
    obtain ⟨r, hr, -, htarget⟩ := leadsTo_element_iff.1 hleads
    exact (ends_ne_of_element?_none h hr).2 htarget
  have hto : (Model.assemble items).ledToFrom (.element e) id = false := by
    refine Bool.eq_false_iff.2 fun hled => ?_
    obtain ⟨r, hr, hsource, -⟩ := ledToFrom_element_iff.1 hled
    exact (ends_ne_of_element?_none h hr).1 hsource
  -- one case for each predicate, decided by the fact about it
  simp only [Predicate.aboutContainment, Predicate.aboutReferences, List.cons_append,
    List.nil_append, List.mem_cons, List.not_mem_nil, or_false] at hpredicate
  rcases hpredicate with rfl | rfl | rfl | rfl | rfl | rfl
  · simp [Predicate.holds, Item.id, hchild]
  · simp [Predicate.holds, hparent]
  · simp [Predicate.holds, Item.id, hbelow]
  · simp [Predicate.holds, Item.id, habove]
  · rw [Predicate.holds, hfrom]
  · rw [Predicate.holds, hto]

/-- In every model that is built the predicates about two elements are converses of one another. -/
theorem conversePredicates_of_build {sources : List Source} {built : Built}
    (h : (Model.build sources).value = .ok built) : ConversePredicates built.model := by
  obtain ⟨hitems, -⟩ := build_eq_ok h
  obtain ⟨hmodel, hcycle⟩ := Model.ofItems_eq_ok hitems
  rw [hmodel]
  refine ⟨tfae_direct _, tfae_deep (acyclic_of_findCycle hcycle), tfae_related _, ?_, ?_⟩
  · intro r id predicate hpredicate
    rw [Model.satisfies_alone, holds_relation_of_aboutContainment hpredicate]
  · intro id hnone e predicate hpredicate
    rw [Model.satisfies_alone, holds_element_of_element?_none hnone hpredicate]

/-- The queue of the shop lies two levels below the other source's system, and a relation leads from
one container to another that lies beside it. -/
theorem conversePredicates_shopSources :
    ∃ built, (Model.build shopSources).value = .ok built ∧
      built.model.descendants ⟨"acme"⟩ = [⟨"shop"⟩, ⟨"shop/web"⟩, ⟨"shop/queue"⟩, ⟨"db"⟩] ∧
      built.model.ancestors ⟨"shop/queue"⟩ = [⟨"shop"⟩, ⟨"acme"⟩] ∧
      ConversePredicates built.model := by
  obtain ⟨built, hbuilt, hobserved⟩ :
      ∃ built, (Model.build shopSources).value = .ok built ∧
        (built.model.descendants ⟨"acme"⟩, built.model.ancestors ⟨"shop/queue"⟩) =
          ([⟨"shop"⟩, ⟨"shop/web"⟩, ⟨"shop/queue"⟩, ⟨"db"⟩], [⟨"shop"⟩, ⟨"acme"⟩]) :=
    exists_built_of_map (by decide +kernel)
  simp only [Prod.mk.injEq] at hobserved
  exact ⟨built, hbuilt, hobserved.1, hobserved.2, conversePredicates_of_build hbuilt⟩

end Viewpoint
