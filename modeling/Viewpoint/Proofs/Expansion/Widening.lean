import Viewpoint.Proofs.Expansion.Reach

/-!
# What a set is widened to

Include flags may be mixed and repeated in any order, and each of them sees what the earlier ones
have added. Still, only two numbers decide what a set is widened to. Each flag for related elements
makes one more step along relations, and relations are never followed by being members themselves.
So the elements depend on the number of these flags only. Flags for relations add ever more of them,
so only the last one counts, and with it the number of steps made before.

* `LastRelationsAfter` says how many steps the last flag for relations follows.
* `Model.WellLinked.mem_expand_iff` says which names a set is widened to.
* `WidensInSteps` says everything about the outcome, and `widensInSteps_of_build` that it holds in
  every model that is built.
-/

namespace Viewpoint

/-- The last flag for relations among include flags stands after `n` flags for related elements. -/
def LastRelationsAfter (flags : List IncludeFlag) (n : Nat) : Prop :=
  ∃ before after, flags = before ++ .relations :: after ∧ .relations ∉ after ∧
    before.count .related = n

/-- What a set is widened to by include flags. -/
structure WidensInSteps (model : Model) (set : IdentSet) (flags : List IncludeFlag) : Prop where
  /-- No name is there twice. -/
  nodup : (model.expand set flags).toList.Nodup
  /-- The names of the set come first, in their order. -/
  starts : set.toList <+: (model.expand set flags).toList
  /-- There are the names within reach by as many steps as there are flags for related elements,
  and if there are flags for relations, the resolved relations with both ends within reach by the
  steps before the last of them. -/
  mem_iff : ∀ id, id ∈ (model.expand set flags).toList ↔
    model.InReach set (flags.count .related) id ∨
      ∃ n, LastRelationsAfter flags n ∧ model.RelationInReach set n id
  /-- A flag for related elements adds the same as if no flag for relations stood before it. -/
  related_ignores : ∀ before after, flags = before ++ .related :: after →
    model.additions (model.expand set before) .related =
      model.additions (model.expand set (before.filter (· = .related))) .related
  /-- It adds nothing if as many of them as there are elements stand before it. -/
  related_settles : ∀ before after, flags = before ++ .related :: after →
    model.elements.length ≤ before.count .related →
      model.additions (model.expand set before) .related = []

namespace LastRelationsAfter

variable {flags : List IncludeFlag} {n : Nat}

/-- A flag for relations at the end is the last one, and another flag at the end leaves the last one
where it is. -/
theorem append_singleton_iff {flag : IncludeFlag} : LastRelationsAfter (flags ++ [flag]) n ↔
    if flag = .relations then flags.count .related = n else LastRelationsAfter flags n := by
  constructor
  · rintro ⟨before, after, heq, hafter, hcount⟩
    rcases after.eq_nil_or_concat' with rfl | ⟨rest, last, rfl⟩
    · obtain ⟨rfl, hlast⟩ := List.append_inj' heq rfl
      rw [if_pos (List.singleton_inj.1 hlast), hcount]
    · -- the flag at the end is one of those after the last flag for relations
      rw [← List.cons_append, ← List.append_assoc] at heq
      obtain ⟨rfl, hlast⟩ := List.append_inj' heq rfl
      rw [List.mem_append, not_or] at hafter
      have hflag : flag ≠ .relations := by
        rintro rfl
        exact hafter.2 (List.mem_singleton.2 (List.singleton_inj.1 hlast))
      rw [if_neg hflag]
      exact ⟨before, rest, rfl, hafter.1, hcount⟩
  · intro h
    split at h
    · next hflag => exact ⟨flags, [], by rw [hflag], List.not_mem_nil, h⟩
    · next hflag =>
      obtain ⟨before, after, rfl, hafter, hcount⟩ := h
      refine ⟨before, after ++ [flag], List.append_assoc _ _ _, ?_, hcount⟩
      rw [List.mem_append, not_or]
      exact ⟨hafter, fun hmem => hflag (List.mem_singleton.1 hmem).symm⟩

theorem not_nil : ¬ LastRelationsAfter [] n := by
  rintro ⟨before, after, heq, -⟩
  exact absurd heq.symm (List.append_ne_nil_of_right_ne_nil _ (List.cons_ne_nil _ _))

/-- No more flags stand before the last one for relations than there are. -/
theorem le_count (h : LastRelationsAfter flags n) : n ≤ flags.count .related := by
  obtain ⟨before, after, rfl, -, rfl⟩ := h
  rw [List.count_append]
  exact Nat.le_add_right _ _

end LastRelationsAfter

namespace Model

variable {model : Model} {set set' : IdentSet} {flags : List IncludeFlag} {id : Ident}

/-- The last flag sees what the flags before it have added. -/
theorem expand_append_singleton (flag : IncludeFlag) : model.expand set (flags ++ [flag]) =
    (model.expand set flags).addAll (model.additions (model.expand set flags) flag) := by
  rw [expand, List.foldl_append]
  rfl

/-- Widening keeps what is there in its place. -/
theorem prefix_expand (model : Model) (set : IdentSet) (flags : List IncludeFlag) :
    set.toList <+: (model.expand set flags).toList := by
  induction flags generalizing set with
  | nil => exact List.prefix_rfl
  | cons flag rest ih => exact (set.prefix_addAll _).trans (ih _)

namespace WellLinked

variable (h : model.WellLinked)

include h

/-- An element is related to a set when it is linked to a member. -/
theorem isRelatedTo_iff :
    model.isRelatedTo set id = true ↔ ∃ other ∈ set.toList, model.Linked other id := by
  simp only [isRelatedTo, Bool.or_eq_true, List.any_eq_true, h.mem_relationsFrom_iff,
    h.mem_relationsTo_iff, IdentSet.contains_iff]
  constructor
  · rintro (⟨r, ⟨hr, rfl⟩, hmem⟩ | ⟨r, ⟨hr, rfl⟩, hmem⟩)
    · exact ⟨r.target, hmem, r, hr, .inr ⟨rfl, rfl⟩⟩
    · exact ⟨r.source, hmem, r, hr, .inl ⟨rfl, rfl⟩⟩
  · rintro ⟨other, hmem, r, hr, ⟨rfl, rfl⟩ | ⟨rfl, rfl⟩⟩
    · exact .inr ⟨r, ⟨hr, rfl⟩, hmem⟩
    · exact .inl ⟨r, ⟨hr, rfl⟩, hmem⟩

/-- A set together with what is related to it has the members of the set and what is linked to
them. -/
theorem mem_addAll_related : id ∈ (set.addAll (model.additions set .related)).toList ↔
    id ∈ set.toList ∨ ∃ other ∈ set.toList, model.Linked other id := by
  rw [IdentSet.mem_addAll, mem_additions_related, h.isRelatedTo_iff]
  constructor
  · rintro (hid | ⟨-, -, hlinked⟩)
    · exact .inl hid
    · exact .inr hlinked
  · rintro (hid | ⟨other, hother, hlink⟩)
    · exact .inl hid
    · by_cases hid : id ∈ set.toList
      · exact .inl hid
      · exact .inr ⟨(h.hasElement_of_linked hlink).2,
          Bool.eq_false_iff.2 fun hcontains => hid (IdentSet.contains_iff.1 hcontains),
          other, hother, hlink⟩

/-- Sets with the same elements among their members have the same related elements. -/
theorem additions_related_congr
    (hset : ∀ id, model.HasElement id → (id ∈ set'.toList ↔ id ∈ set.toList)) :
    model.additions set' .related = model.additions set .related := by
  refine List.filter_congr fun id hid => ?_
  have helement : model.HasElement id := List.mem_map.1 hid
  have hcontains : set'.contains id = set.contains id := by
    rw [Bool.eq_iff_iff, IdentSet.contains_iff, IdentSet.contains_iff, hset id helement]
  have hrelated : model.isRelatedTo set' id = model.isRelatedTo set id := by
    rw [Bool.eq_iff_iff, h.isRelatedTo_iff, h.isRelatedTo_iff]
    -- only elements are linked, and of these the sets have the same
    refine exists_congr fun other => and_congr_left fun hlink => ?_
    exact hset other (h.hasElement_of_linked hlink).1
  rw [hcontains, hrelated]

/-- A set is widened to the elements within reach by as many steps as there are flags for related
elements. -/
theorem mem_expand_iff_of_hasElement (hid : model.HasElement id) :
    id ∈ (model.expand set flags).toList ↔ model.InReach set (flags.count .related) id := by
  -- by induction on the flags from their end, for all elements: the last flag adds only relations,
  -- or it makes one more step from the elements that are there
  induction flags using List.reverseRecOn generalizing id with
  | nil => exact inReach_zero_iff.symm
  | append_singleton flags flag ih =>
    rw [expand_append_singleton, List.count_append]
    cases flag with
    | relations =>
      rw [IdentSet.mem_addAll, mem_additions_relations, ih hid]
      refine or_iff_left ?_
      rintro ⟨r, hr, -, rfl⟩
      exact h.not_hasElement_id r hr hid
    | related =>
      rw [h.mem_addAll_related, ih hid]
      refine Iff.trans ?_ h.inReach_succ_iff.symm
      exact or_congr_right (exists_congr fun other => and_congr_left fun hlink =>
        ih (h.hasElement_of_linked hlink).1)

/-- The flag for relations adds those between elements within reach. -/
theorem mem_additions_relations_expand_iff :
    id ∈ model.additions (model.expand set flags) .relations ↔
      model.RelationInReach set (flags.count .related) id := by
  rw [mem_additions_relations, RelationInReach]
  refine exists_congr fun r => and_congr_right fun hr => ?_
  obtain ⟨hsource, htarget⟩ := h.ends r hr
  rw [IdentSet.contains_iff, IdentSet.contains_iff, h.mem_expand_iff_of_hasElement hsource,
    h.mem_expand_iff_of_hasElement htarget]

/-- A flag for related elements makes one more step. -/
theorem inReach_succ_count_iff : model.InReach set (flags.count .related + 1) id ↔
    model.InReach set (flags.count .related) id ∨
      ∃ other ∈ (model.expand set flags).toList, model.Linked other id := by
  rw [h.inReach_succ_iff]
  exact or_congr_right (exists_congr fun other => and_congr_left fun hlink =>
    (h.mem_expand_iff_of_hasElement (h.hasElement_of_linked hlink).1).symm)

/-- The names that a set is widened to. -/
theorem mem_expand_iff : id ∈ (model.expand set flags).toList ↔
    model.InReach set (flags.count .related) id ∨
      ∃ n, LastRelationsAfter flags n ∧ model.RelationInReach set n id := by
  -- by induction on the flags from their end: the last flag is one for relations, and then it adds
  -- what all earlier ones have added and maybe more, or it makes a step and adds no relations
  induction flags using List.reverseRecOn with
  | nil =>
    rw [or_iff_left fun ⟨_, hlast, _⟩ => LastRelationsAfter.not_nil hlast]
    exact inReach_zero_iff.symm
  | append_singleton flags flag ih =>
    simp only [expand_append_singleton, List.count_append, LastRelationsAfter.append_singleton_iff]
    cases flag with
    | relations =>
      have hlast : (∃ n, LastRelationsAfter flags n ∧ model.RelationInReach set n id) →
          model.RelationInReach set (flags.count .related) id :=
        fun ⟨_, hlast, hid⟩ => hid.mono hlast.le_count
      rw [IdentSet.mem_addAll, ih, h.mem_additions_relations_expand_iff, or_assoc,
        or_iff_right_of_imp hlast]
      simp
    | related =>
      rw [h.mem_addAll_related, ih, or_right_comm, ← h.inReach_succ_count_iff]
      simp

/-- What is added by a flag for related elements depends on the flags of this kind before it. -/
theorem additions_related_filter : model.additions (model.expand set flags) .related =
    model.additions (model.expand set (flags.filter (· = .related))) .related := by
  have hcount : (flags.filter (· = .related)).count .related = flags.count .related :=
    List.count_filter (decide_eq_true rfl)
  refine h.additions_related_congr fun id hid => ?_
  rw [h.mem_expand_iff_of_hasElement hid, h.mem_expand_iff_of_hasElement hid, hcount]

/-- Nothing is added by a flag for related elements after as many as there are elements. -/
theorem additions_related_eq_nil (hle : model.elements.length ≤ flags.count .related) :
    model.additions (model.expand set flags) .related = [] := by
  rw [List.eq_nil_iff_forall_not_mem]
  intro id hid
  obtain ⟨helement, hnew, hrelated⟩ := mem_additions_related.1 hid
  have hnext : model.InReach set (flags.count .related + 1) id :=
    h.inReach_succ_count_iff.2 (.inr (h.isRelatedTo_iff.1 hrelated))
  have hthere : id ∈ (model.expand set flags).toList :=
    (h.mem_expand_iff_of_hasElement helement).2 (h.inReach_of_succ hle hnext)
  rw [IdentSet.contains_iff.2 hthere] at hnew
  cases hnew

end WellLinked

end Model

/-- In every model that is built, sets are widened step by step. -/
theorem widensInSteps_of_build {sources : List Source} {built : Built}
    (h : (Model.build sources).value = .ok built) (set : IdentSet) (flags : List IncludeFlag) :
    WidensInSteps built.model set flags :=
  have hlinked : built.model.WellLinked := wellLinked_of_build h
  { nodup := IdentSet.nodup _
    starts := built.model.prefix_expand set flags
    mem_iff := fun _ => hlinked.mem_expand_iff
    related_ignores := fun _ _ _ => hlinked.additions_related_filter
    related_settles := fun _ _ _ => hlinked.additions_related_eq_nil }

/-- Two steps lead from the queue to the data base, and the last relations are those within reach of
one step: the relation to the data base is not among them, and the undeclared name leads nowhere. -/
theorem widensInSteps_shopSources :
    ∃ built, (Model.build shopSources).value = .ok built ∧
      (built.model.expand (.ofList [⟨"ghost"⟩, ⟨"shop/queue"⟩])
        [.relations, .related, .relations, .related]).toList =
          [⟨"ghost"⟩, ⟨"shop/queue"⟩, ⟨"shop/web"⟩, ⟨"web-in-queue"⟩, ⟨"db"⟩] ∧
      WidensInSteps built.model (.ofList [⟨"ghost"⟩, ⟨"shop/queue"⟩])
        [.relations, .related, .relations, .related] := by
  obtain ⟨built, hbuilt, hexpand⟩ :
      ∃ built, (Model.build shopSources).value = .ok built ∧
        (built.model.expand (.ofList [⟨"ghost"⟩, ⟨"shop/queue"⟩])
          [.relations, .related, .relations, .related]).toList =
            [⟨"ghost"⟩, ⟨"shop/queue"⟩, ⟨"shop/web"⟩, ⟨"web-in-queue"⟩, ⟨"db"⟩] :=
    exists_built_of_map (by decide +kernel)
  exact ⟨built, hbuilt, hexpand, widensInSteps_of_build hbuilt _ _⟩

end Viewpoint
