import Viewpoint.Proofs.Model.Nesting
import Viewpoint.Proofs.Model.Refusal

/-!
# What building notes

Building notes two kinds of things. While the sources are merged it notes, source by source, which
enclosed elements declare another owner than the one around them; once there is a model it notes the
warnings. So a build that fails has noted no warning, and one that fails at a repeated name has
noted the owners of the sources up to the one that repeats it, which is flattened as a whole before
any of its declarations is merged.

* `merge_cases` says what merging notes, whether it ends well or not, and `notices_build` what is
  noted after that.
* `NotesOverrides` says that notices tell of the overridden owners of sources and of nothing else.
* `NotesExactly` tells what a build notes by how it ends, and `notesExactly` says that this holds
  for all sources.
-/

namespace Viewpoint

/-- The notices tell which enclosed elements declare another owner than the one that encloses them,
source by source and in a source in the order of the paths. -/
def NotesOverrides (sources : List Source) (notices : List Notice) : Prop :=
  ∃ overrides, InPathOrder (atMembers sources Source.overrideAt?) overrides ∧
    notices = overrides.map OwnerOverride.notice

/-- What building notes, by how it ends. -/
structure NotesExactly (sources : List Source) : Prop where
  /-- If there is a model, the overridden owners of all sources are noted, and after them each of
  the warnings with its code and its text. -/
  of_built : ∀ built, (Model.build sources).value = .ok built →
    ∃ overridden, NotesOverrides sources overridden ∧
      (Model.build sources).notices = overridden ++
        built.warnings.map fun warning => ⟨[("code", warning.code.text)], warning.message⟩
  /-- If the containment runs in a circle, the overridden owners of all sources are noted. -/
  of_circle : ∀ path, (Model.build sources).value = .error (.containmentCycle path) →
    NotesOverrides sources (Model.build sources).notices
  /-- If a name is repeated, the overridden owners are noted of the source in which it is repeated
  and of those before it. -/
  of_repetition : ∀ id first duplicate,
    (Model.build sources).value = .error (.duplicateId id first duplicate) →
      (∃ item, DeclaresAt sources duplicate item ∧ item.id = id) ∧
        NotesOverrides (sources.take (duplicate.sourceIndex + 1)) (Model.build sources).notices

/-- What the sources note one after the other are their overridden owners. -/
theorem notesOverrides_flatMap (sources : List Source) :
    NotesOverrides sources (sources.flatMap Source.notices) := by
  refine ⟨sources.flatMap Source.overrides, ?_, ?_⟩
  · exact InPathOrder.flatMap sources fun source _ => source.inPathOrder_overrides
  · rw [List.map_flatMap]
    rfl

/-- In a list with its positions, a member and those before it are as many as its position says. -/
theorem map_fst_of_zipIdx {α : Type} {list : List α} {before after : List (α × Nat)}
    {entry : α × Nat} (h : list.zipIdx = before ++ entry :: after) :
    (before ++ [entry]).map Prod.fst = list.take (entry.2 + 1) := by
  have hentry : list.zipIdx[before.length]? = some entry := by
    rw [h, List.getElem?_append_right le_rfl, Nat.sub_self, List.getElem?_cons_zero]
  rw [List.getElem?_zipIdx, Option.map_eq_some_iff] at hentry
  obtain ⟨a, -, rfl⟩ := hentry
  have hbefore : before ++ [(a, 0 + before.length)] = list.zipIdx.take (before.length + 1) := by
    rw [h, List.take_length_add_append, List.take_succ_cons, List.take_zero]
  rw [hbefore, List.map_take, List.zipIdx_map_fst, Nat.zero_add]

variable {merged : List Sited} {sources : List Source}

/-- Merging comes to its end and has noted what all sources note, or a source repeats a name, and
then it has noted what this source and those before it note. -/
theorem merge_cases (entries : List (Source × Nat)) (hnodup : (sitedIds merged).Nodup) :
    (∃ out, (merge merged entries).value = .ok out ∧
      (merge merged entries).notices = entries.flatMap fun entry => entry.1.notices) ∨
    ∃ before entry after, entries = before ++ entry :: after ∧
      (merge merged entries).notices = (before ++ [entry]).flatMap (fun entry => entry.1.notices) ∧
      ∃ first, ∃ duplicate ∈ entry.1.sited entry.2, (merge merged entries).value =
        .error (.duplicateId duplicate.item.id first duplicate.site) := by
  -- by induction on the sources, from any declarations with distinct names
  induction entries generalizing merged with
  | nil => exact Or.inl ⟨merged, rfl, rfl⟩
  | cons entry rest ih =>
    obtain ⟨source, index⟩ := entry
    cases hadded : addDistinct merged (source.sited index) with
    | error error =>
      obtain ⟨before, duplicate, after, first, hnext, -, -, rfl⟩ :=
        addDistinct_eq_error hadded hnodup
      refine Or.inr ⟨[], (source, index), rest, rfl, ?_, first.site, duplicate, ?_, ?_⟩
      · rw [merge, Logged.notices_bind, hadded]
        simp [Logged.record]
      · simp [hnext]
      · rw [merge, Logged.value_bind, hadded]
        rfl
    | ok added =>
      have hvalue : (merge merged ((source, index) :: rest)).value = (merge added rest).value := by
        rw [merge, Logged.value_bind, hadded]
      have hnotices : (merge merged ((source, index) :: rest)).notices =
          source.notices ++ (merge added rest).notices := by
        rw [merge, Logged.notices_bind, hadded]
        rfl
      rw [hvalue, hnotices]
      rcases ih (addDistinct_eq_ok hadded hnodup).2 with
        ⟨out, hout, hrest⟩ | ⟨before, entry, after, rfl, hrest, hrefused⟩
      · exact Or.inl ⟨out, hout, by rw [hrest, List.flatMap_cons]⟩
      · refine Or.inr ⟨(source, index) :: before, entry, after, rfl, ?_, hrefused⟩
        rw [hrest, List.cons_append, List.flatMap_cons]

/-- After merging, building notes the warnings of the model, if there is one, and nothing else. -/
theorem notices_build (sources : List Source) :
    (Model.build sources).notices = (merge [] sources.zipIdx).notices ++
      match (Model.build sources).value with
      | .ok built => built.warnings.map BuildWarning.notice
      | .error _ => [] := by
  rw [Model.build, Logged.notices_bind, Logged.value_bind]
  congr 1
  cases (merge [] sources.zipIdx).value with
  | error error => rfl
  | ok merged =>
    simp only
    cases Model.ofItems (merged.map Sited.item) with
    | error error => rfl
    | ok built => exact List.append_nil _

/-- Building has either noted what all sources note, and then no name is repeated, or it has noted
what the sources up to the first repetition of a name note. -/
theorem notices_merge_cases (sources : List Source) :
    ((merge [] sources.zipIdx).notices = sources.flatMap Source.notices ∧
      ∀ id first duplicate, (Model.build sources).value ≠
        .error (.duplicateId id first duplicate)) ∨
    ∃ id first duplicate, (Model.build sources).value = .error (.duplicateId id first duplicate) ∧
      (∃ item, DeclaresAt sources duplicate item ∧ item.id = id) ∧
      (merge [] sources.zipIdx).notices =
        (sources.take (duplicate.sourceIndex + 1)).flatMap Source.notices := by
  have hempty : (sitedIds []).Nodup := List.nodup_nil
  rcases merge_cases sources.zipIdx hempty with
    ⟨merged, hmerged, hnotices⟩ | ⟨before, entry, after, hsplit, hnotices, first, duplicate,
      hduplicate, hvalue⟩
  · refine Or.inl ⟨?_, fun id first duplicate hvalue => ?_⟩
    · rw [hnotices, ← List.flatMap_map, List.zipIdx_map_fst]
    · -- after merging, only a circle is refused
      rw [value_merge, ← sitedDeclarations] at hmerged
      rw [value_build, hmerged] at hvalue
      obtain ⟨path, hpath, -⟩ := Model.ofItems_eq_error hvalue
      cases hpath
  · rw [value_merge, ← sitedDeclarations] at hvalue
    refine Or.inr ⟨_, _, _, by rw [value_build, hvalue]; rfl, ⟨duplicate.item, ?_, rfl⟩, ?_⟩
    · refine mem_sitedDeclarations.1 (List.mem_flatMap.2 ⟨entry, ?_, hduplicate⟩)
      rw [hsplit]
      exact List.mem_append_right _ List.mem_cons_self
    · obtain ⟨position, -, rfl⟩ := List.mem_mapIdx.1 hduplicate
      rw [hnotices, ← List.flatMap_map, map_fst_of_zipIdx hsplit]

/-- Whatever the sources are, what is noted while a model is built is told by how building ends. -/
theorem notesExactly (sources : List Source) : NotesExactly sources := by
  have hall := notesOverrides_flatMap sources
  rcases notices_merge_cases sources with ⟨hnotices, hdistinct⟩ |
    ⟨id, first, duplicate, hvalue, hdeclares, hnotices⟩
  · refine ⟨fun built hbuilt => ⟨_, hall, ?_⟩, fun path hpath => ?_,
      fun id first duplicate hvalue => absurd hvalue (hdistinct id first duplicate)⟩
    · rw [notices_build, hnotices, hbuilt]
      rfl
    · rw [notices_build, hnotices, hpath, List.append_nil]
      exact hall
  · refine ⟨fun built hbuilt => ?_, fun path hpath => ?_, fun id' first' duplicate' hvalue' => ?_⟩
    · rw [hvalue] at hbuilt
      cases hbuilt
    · rw [hvalue] at hpath
      cases hpath
    · rw [hvalue] at hvalue'
      cases hvalue'
      refine ⟨hdeclares, ?_⟩
      rw [notices_build, hnotices, hvalue, List.append_nil]
      exact notesOverrides_flatMap _

/-- The second pier repeats a name. The hoist in it is still noted, and the barge in the next source
is not. -/
example :
    let inside (outer id owner : String) : Decl := .element (.node
      { id := outer, kind := .modeled .node }
      [.node { id, kind := .custom "crane", owner := some owner } []])
    (Model.build [⟨"quay", [inside "pier" "crane" "yard", inside "pier" "hoist" "shed"]⟩,
        ⟨"sea", [inside "buoy" "barge" "yard"]⟩]).notices.map Notice.fields =
      [[("element", "crane"), ("declared_owner", "yard"), ("enclosing", "pier")],
        [("element", "hoist"), ("declared_owner", "shed"), ("enclosing", "pier")]] := by
  decide +kernel

end Viewpoint
