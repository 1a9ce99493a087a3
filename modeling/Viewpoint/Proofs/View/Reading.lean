import Mathlib.Logic.Basic
import Mathlib.Tactic.MkIffOfInductiveProp
import Viewpoint.View.Declaration

/-!
# Reading views

A view is accepted when its parts fit its kind and one another and its criteria can be read. It then
keeps its name and shows what its parts say. Otherwise the refusal names the view; it is for the
criteria only where all parts fit, and then the selection comes before what is left out.

* `ViewDecl.Fits` says which parts fit, and `ViewDecl.Contradicts` what each mismatch is about.
* `ViewDecl.reads_body` says what reading the body of a view comes to: a body that shows its parts,
  a mismatch between them or an error in the criteria.
* `ViewDecl.Refusal` are the reasons why a view cannot be read; `refusal_of_view` says that there
  are no others.
* `ReadsByParts` tells how a view is read, and `readsByParts` that every view is read so.
-/

namespace Viewpoint

namespace ViewDecl

variable {decl : ViewDecl}

/-- No part is there that belongs to selections. -/
@[mk_iff]
structure LacksSelectionParts (decl : ViewDecl) : Prop where
  /-- Nothing is selected. -/
  selection : decl.selection = none
  /-- No selection is widened. -/
  flags : decl.flags = []
  /-- Nothing is left out. -/
  exclude : decl.exclude = none

/-- The parts of the view fit. A filtered view has a base and nothing to show of its own. Any other
view has neither a base nor a mode; it has content, or nothing at all, or a selection, which a
dynamic view cannot have. -/
inductive Fits (decl : ViewDecl) : Prop
  | filtered (hkind : decl.kind = .modeled .filtered) (hbase : decl.base ≠ none)
      (hparts : decl.LacksSelectionParts) (hcontent : decl.content = none)
  | explicit (hkind : decl.kind ≠ .modeled .filtered) (hbase : decl.base = none)
      (hmode : decl.mode = none) (hcontent : decl.content ≠ none)
      (hparts : decl.LacksSelectionParts)
  | empty (hkind : decl.kind ≠ .modeled .filtered) (hbase : decl.base = none)
      (hmode : decl.mode = none) (hcontent : decl.content = none)
      (hparts : decl.LacksSelectionParts)
  | selection (hkind : decl.kind ≠ .modeled .filtered) (hbase : decl.base = none)
      (hmode : decl.mode = none) (hselection : decl.selection ≠ none)
      (hcontent : decl.content = none) (hdynamic : decl.kind ≠ .modeled .dynamic)

/-- The parts of the view contradict one another in the way that a mismatch says. -/
def Contradicts (decl : ViewDecl) : BodyMismatch → Prop
  | .noBase => decl.kind = .modeled .filtered ∧ decl.base = none
  | .filteredWithContent =>
    decl.kind = .modeled .filtered ∧ ¬ (decl.LacksSelectionParts ∧ decl.content = none)
  | .notFiltered => decl.kind ≠ .modeled .filtered ∧ ¬ (decl.base = none ∧ decl.mode = none)
  | .selectionAndContent =>
    decl.kind ≠ .modeled .filtered ∧ decl.content ≠ none ∧ ¬ decl.LacksSelectionParts
  | .dynamicSelection => decl.kind = .modeled .dynamic ∧ decl.selection ≠ none
  | .partsWithoutSelection =>
    decl.kind ≠ .modeled .filtered ∧ decl.selection = none ∧ ¬ decl.LacksSelectionParts

/-- A filtered view that fits has a base and nothing to show of its own. -/
theorem Fits.parts_of_filtered (h : decl.Fits) (hkind : decl.kind = .modeled .filtered) :
    decl.base ≠ none ∧ decl.LacksSelectionParts ∧ decl.content = none := by
  cases h with
  | filtered _ hbase hparts hcontent => exact ⟨hbase, hparts, hcontent⟩
  | explicit hother | empty hother | selection hother => exact absurd hkind hother

/-- Any other view that fits has no base and no mode, and its selection stands alone. -/
theorem Fits.parts_of_not_filtered (h : decl.Fits) (hkind : decl.kind ≠ .modeled .filtered) :
    (decl.base = none ∧ decl.mode = none) ∧ (decl.LacksSelectionParts ∨
      decl.selection ≠ none ∧ decl.content = none ∧ decl.kind ≠ .modeled .dynamic) := by
  cases h with
  | filtered hfiltered => exact absurd hfiltered hkind
  | explicit _ hbase hmode _ hparts | empty _ hbase hmode _ hparts =>
    exact ⟨⟨hbase, hmode⟩, .inl hparts⟩
  | selection _ hbase hmode hselection hcontent hdynamic =>
    exact ⟨⟨hbase, hmode⟩, .inr ⟨hselection, hcontent, hdynamic⟩⟩

/-- Parts that contradict one another do not fit. -/
theorem Contradicts.not_fits {mismatch : BodyMismatch} (h : decl.Contradicts mismatch) :
    ¬ decl.Fits := by
  intro hfits
  cases mismatch with
  | noBase => exact (hfits.parts_of_filtered h.1).1 h.2
  | filteredWithContent => exact h.2 (hfits.parts_of_filtered h.1).2
  | notFiltered => exact h.2 (hfits.parts_of_not_filtered h.1).1
  | selectionAndContent =>
    obtain ⟨hkind, hcontent, hparts⟩ := h
    rcases (hfits.parts_of_not_filtered hkind).2 with hlacks | ⟨-, hnone, -⟩
    · exact hparts hlacks
    · exact hcontent hnone
  | dynamicSelection =>
    obtain ⟨hkind, hselection⟩ := h
    have hother : decl.kind ≠ .modeled .filtered := by
      rw [hkind]
      decide
    rcases (hfits.parts_of_not_filtered hother).2 with hlacks | ⟨-, -, hdynamic⟩
    · exact hselection hlacks.selection
    · exact hdynamic hkind
  | partsWithoutSelection =>
    obtain ⟨hkind, hselection, hparts⟩ := h
    rcases (hfits.parts_of_not_filtered hkind).2 with hlacks | ⟨hsome, -, -⟩
    · exact hparts hlacks
    · exact hsome hselection

/-- Whether there is a part that belongs to selections. -/
theorem hasSelectionParts_iff : decl.hasSelectionParts = true ↔ ¬ decl.LacksSelectionParts := by
  rw [lacksSelectionParts_iff, hasSelectionParts]
  simp only [Bool.or_eq_true, Bool.not_eq_true', Option.isSome_iff_ne_none, ne_eq,
    List.isEmpty_eq_false_iff, not_and_or, or_assoc]

/-- Whether there is a part that belongs to selections, or content. -/
theorem hasSelectionParts_or_content_iff :
    (decl.hasSelectionParts || decl.content.isSome) = true ↔
      ¬ (decl.LacksSelectionParts ∧ decl.content = none) := by
  rw [Bool.or_eq_true, hasSelectionParts_iff, Option.isSome_iff_ne_none, not_and_or]

/-- Whether there is a base or a mode. -/
theorem base_or_mode_iff :
    (decl.base.isSome || decl.mode.isSome) = true ↔ ¬ (decl.base = none ∧ decl.mode = none) := by
  rw [Bool.or_eq_true, Option.isSome_iff_ne_none, Option.isSome_iff_ne_none, not_and_or]

/-- Why a view cannot be read: its parts do not fit, or its criteria cannot be read. -/
inductive Refusal (decl : ViewDecl) : ViewError → Prop
  | parts (mismatch : BodyMismatch) : Refusal decl (.invalid decl.id (.bodyMismatch mismatch))
  | criteria (error : CriteriaError) : Refusal decl (.criteria decl.id error)

/-- The refusal of a view names it. -/
theorem Refusal.view_eq {error : ViewError} (h : decl.Refusal error) : error.view = decl.id := by
  cases h with
  | parts mismatch => rfl
  | criteria error => rfl

/-! ### What is read -/

/-- A filtered view shows its base through its filter and has nothing to show of its own. -/
structure ShowsFiltered (decl : ViewDecl) (base : Ident) (filter : TagFilter) : Prop where
  /-- The view is filtered. -/
  kind : decl.kind = .modeled .filtered
  /-- The base is the one that is given. -/
  base : decl.base = some base
  /-- The filter has the mode that is given, which keeps the tagged items if none is, and the tags
  that are given. -/
  filter : filter = ⟨decl.mode.getD .keep, decl.tags⟩
  /-- No part of a selection is given. -/
  parts : decl.LacksSelectionParts
  /-- No content is given. -/
  content : decl.content = none

/-- A view shows the content that is given, or an empty list where nothing is given. -/
structure ShowsContent (decl : ViewDecl) (content : List ContentRef) : Prop where
  /-- The view is not filtered. -/
  kind : decl.kind ≠ .modeled .filtered
  /-- The content is the one that is given. -/
  content : content = decl.content.getD []
  /-- No part of a selection is given. -/
  parts : decl.LacksSelectionParts
  /-- No base is given. -/
  base : decl.base = none
  /-- No mode is given. -/
  mode : decl.mode = none

variable [PatternEngine]

/-- The criteria of a part can be read, if the part is there. -/
def PartReads (part : Option CriteriaDecl) : Prop :=
  ∀ written, part = some written → ∃ criteria, written.criteria = .ok criteria

/-- The criteria of a part are there and cannot be read. -/
def PartFails (part : Option CriteriaDecl) (reason : CriteriaError) : Prop :=
  ∃ written, part = some written ∧ written.criteria = .error reason

/-- An error in the criteria is the first one: in the selection or, if that can be read, in what is
left out. -/
def FirstFails (decl : ViewDecl) (reason : CriteriaError) : Prop :=
  PartFails decl.selection reason ∨
    (PartReads decl.selection ∧ PartFails decl.exclude reason)

/-- Criteria are read for a part if it is given, and only then. -/
inductive ReadAs : Option CriteriaDecl → Option Criteria → Prop
  | none : ReadAs none none
  | some {written : CriteriaDecl} {criteria : Criteria} (h : written.criteria = .ok criteria) :
    ReadAs (some written) (some criteria)

/-- A view shows the selection that is given. -/
structure ShowsSelection (decl : ViewDecl) (criteria : Criteria) (flags : List IncludeFlag)
    (exclude : Option Criteria) : Prop where
  /-- The view is not filtered. -/
  kind : decl.kind ≠ .modeled .filtered
  /-- The view is not dynamic. -/
  dynamic : decl.kind ≠ .modeled .dynamic
  /-- The criteria are those that are given. -/
  selection : ∃ written, decl.selection = some written ∧ written.criteria = .ok criteria
  /-- The include flags are those that are given. -/
  flags : flags = decl.flags
  /-- What is left out is what is given, if anything is. -/
  exclude : ReadAs decl.exclude exclude
  /-- No content is given. -/
  content : decl.content = none
  /-- No base is given. -/
  base : decl.base = none
  /-- No mode is given. -/
  mode : decl.mode = none

/-- A body fits the kind of the view and shows all parts that are given. -/
def Shows (decl : ViewDecl) : ViewBody → Prop
  | .filtered base filter => decl.ShowsFiltered base filter
  | .explicit content => decl.ShowsContent content
  | .selection criteria flags exclude => decl.ShowsSelection criteria flags exclude

/-- What reading the body of a view may come to. -/
inductive Reads (decl : ViewDecl) : Except ViewError ViewBody → Prop
  /-- The parts fit, the criteria are read, and there is a body. -/
  | read {body : ViewBody} (hfits : decl.Fits) (hselection : PartReads decl.selection)
      (hexclude : PartReads decl.exclude) (hshows : decl.Shows body) : decl.Reads (.ok body)
  /-- The parts do not fit. -/
  | mismatch {mismatch : BodyMismatch} (hmismatch : decl.Contradicts mismatch) :
    decl.Reads (.error (.invalid decl.id (.bodyMismatch mismatch)))
  /-- The parts fit, and some criteria cannot be read. -/
  | criteria {reason : CriteriaError} (hfits : decl.Fits) (hfirst : decl.FirstFails reason) :
    decl.Reads (.error (.criteria decl.id reason))

/-- Criteria that fail cannot be read. -/
theorem PartFails.not_reads {part : Option CriteriaDecl} {reason : CriteriaError}
    (h : PartFails part reason) : ¬ PartReads part := by
  intro hreads
  obtain ⟨written, hpart, herror⟩ := h
  obtain ⟨criteria, hok⟩ := hreads written hpart
  cases hok.symm.trans herror

/-- Criteria of which one part fails cannot all be read. -/
theorem FirstFails.not_reads {reason : CriteriaError} (h : decl.FirstFails reason) :
    ¬ (PartReads decl.selection ∧ PartReads decl.exclude) := by
  rintro ⟨hselection, hexclude⟩
  rcases h with h | ⟨-, h⟩
  · exact h.not_reads hselection
  · exact h.not_reads hexclude

/-- The criteria of a part fail for one reason only. -/
theorem PartFails.unique {part : Option CriteriaDecl} {reason reason' : CriteriaError}
    (h : PartFails part reason) (h' : PartFails part reason') : reason = reason' := by
  obtain ⟨written, rfl, herror⟩ := h
  obtain ⟨written', hpart, herror'⟩ := h'
  cases hpart
  exact Except.error.inj (herror.symm.trans herror')

/-- There is only one first error. -/
theorem FirstFails.unique {reason reason' : CriteriaError} (h : decl.FirstFails reason)
    (h' : decl.FirstFails reason') : reason = reason' := by
  rcases h with h | ⟨hreads, h⟩ <;> rcases h' with h' | ⟨hreads', h'⟩
  · exact h.unique h'
  · exact absurd hreads' h.not_reads
  · exact absurd hreads h'.not_reads
  · exact h.unique h'

/-- A part that is not there can be read. -/
theorem partReads_none : PartReads none := by
  intro written h
  cases h

/-- A part that is there can be read if its criteria can. -/
theorem partReads_some {written : CriteriaDecl} {criteria : Criteria}
    (h : written.criteria = .ok criteria) : PartReads (some written) := by
  intro written' hpart
  cases hpart
  exact ⟨criteria, h⟩

/-- Criteria that are read for a part can be read. -/
theorem ReadAs.partReads {part : Option CriteriaDecl} {read : Option Criteria}
    (h : ReadAs part read) : PartReads part := by
  cases h with
  | none => exact partReads_none
  | some h => exact partReads_some h

/-- The criteria of a part are read in one way only. -/
theorem ReadAs.unique {part : Option CriteriaDecl} {read read' : Option Criteria}
    (h : ReadAs part read) (h' : ReadAs part read') : read = read' := by
  cases h with
  | none =>
    cases h'
    rfl
  | some h =>
    cases h' with
    | some h' => rw [Except.ok.inj (h.symm.trans h')]

/-- Where parts that belong to selections are missing, all criteria can be read. -/
theorem LacksSelectionParts.reads (h : decl.LacksSelectionParts) :
    PartReads decl.selection ∧ PartReads decl.exclude := by
  rw [h.selection, h.exclude]
  exact ⟨partReads_none, partReads_none⟩

/-- Reading a selection reads its criteria and then those of what is left out. -/
theorem reads_selection {selection : CriteriaDecl} (hkind : decl.kind ≠ .modeled .filtered)
    (hbase : decl.base = none) (hmode : decl.mode = none)
    (hselection : decl.selection = some selection) (hcontent : decl.content = none)
    (hdynamic : decl.kind ≠ .modeled .dynamic) :
    decl.Reads (do
      let criteria ← decl.readCriteria selection
      let exclude ← decl.exclude.mapM decl.readCriteria
      pure (.selection criteria decl.flags exclude)) := by
  have hsome : decl.selection ≠ none := by
    rw [hselection]
    exact Option.some_ne_none selection
  have hfits : decl.Fits := .selection hkind hbase hmode hsome hcontent hdynamic
  cases hread : selection.criteria with
  | error reason =>
    rw [readCriteria, hread]
    exact .criteria hfits (.inl ⟨selection, hselection, hread⟩)
  | ok criteria =>
    have hreads : PartReads decl.selection := hselection ▸ partReads_some hread
    -- only now are the criteria of what is left out looked at
    rw [readCriteria, hread]
    cases hexclude : decl.exclude with
    | none =>
      exact .read hfits hreads (hexclude ▸ partReads_none)
        ⟨hkind, hdynamic, ⟨selection, hselection, hread⟩, rfl, hexclude ▸ .none, hcontent, hbase,
          hmode⟩
    | some written =>
      rw [Option.mapM_some, readCriteria]
      cases hread' : written.criteria with
      | error reason => exact .criteria hfits (.inr ⟨hreads, written, hexclude, hread'⟩)
      | ok excluded =>
        exact .read hfits hreads (hexclude ▸ partReads_some hread')
          ⟨hkind, hdynamic, ⟨selection, hselection, hread⟩, rfl, hexclude ▸ .some hread', hcontent,
            hbase, hmode⟩

/-- A view is refused for a mismatch that is there. -/
theorem reads_refuse {mismatch : BodyMismatch} (h : decl.Contradicts mismatch) :
    decl.Reads (decl.refuse mismatch) :=
  .mismatch h

/-- The body of a filtered view is its base with a filter. -/
theorem reads_body_of_filtered (hkind : decl.kind = .modeled .filtered) :
    decl.Reads decl.body := by
  rw [body, if_pos hkind]
  cases hbase : decl.base with
  | none => exact reads_refuse ⟨hkind, hbase⟩
  | some base =>
    show decl.Reads (if _ then _ else _)
    split
    · next hparts => exact reads_refuse ⟨hkind, hasSelectionParts_or_content_iff.1 hparts⟩
    · next hparts =>
      rw [hasSelectionParts_or_content_iff, not_not] at hparts
      obtain ⟨hlacks, hcontent⟩ := hparts
      have hsome : decl.base ≠ none := by
        rw [hbase]
        exact Option.some_ne_none base
      exact .read (.filtered hkind hsome hlacks hcontent) hlacks.reads.1 hlacks.reads.2
        ⟨hkind, hbase, rfl, hlacks, hcontent⟩

/-- The body of any other view is its content or its selection, or nothing. -/
theorem reads_body_of_not_filtered (hkind : decl.kind ≠ .modeled .filtered) :
    decl.Reads decl.body := by
  rw [body, if_neg hkind]
  split
  · next hother => exact reads_refuse ⟨hkind, base_or_mode_iff.1 hother⟩
  next hother =>
  rw [base_or_mode_iff, not_not] at hother
  obtain ⟨hbase, hmode⟩ := hother
  -- content comes before a selection: with both, the view is refused for the selection
  cases hcontent : decl.content with
  | some content =>
    have hsome : decl.content ≠ none := by
      rw [hcontent]
      exact Option.some_ne_none content
    show decl.Reads (if _ then _ else _)
    split
    · next hparts => exact reads_refuse ⟨hkind, hsome, hasSelectionParts_iff.1 hparts⟩
    · next hparts =>
      rw [hasSelectionParts_iff, not_not] at hparts
      exact .read (.explicit hkind hbase hmode hsome hparts) hparts.reads.1 hparts.reads.2
        ⟨hkind, by rw [hcontent]; rfl, hparts, hbase, hmode⟩
  | none =>
    cases hselection : decl.selection with
    | some selection =>
      show decl.Reads (if _ then _ else _)
      split
      · next hdynamic =>
        refine reads_refuse ⟨hdynamic, ?_⟩
        rw [hselection]
        exact Option.some_ne_none selection
      · next hdynamic => exact reads_selection hkind hbase hmode hselection hcontent hdynamic
    | none =>
      show decl.Reads (if _ then _ else _)
      split
      · next hparts => exact reads_refuse ⟨hkind, hselection, hasSelectionParts_iff.1 hparts⟩
      · next hparts =>
        rw [hasSelectionParts_iff, not_not] at hparts
        exact .read (.empty hkind hbase hmode hcontent hparts) hparts.reads.1 hparts.reads.2
          ⟨hkind, by rw [hcontent]; rfl, hparts, hbase, hmode⟩

/-- Reading the body of a view comes to nothing else. -/
theorem reads_body (decl : ViewDecl) : decl.Reads decl.body := by
  by_cases hkind : decl.kind = .modeled .filtered
  · exact reads_body_of_filtered hkind
  · exact reads_body_of_not_filtered hkind

namespace Reads

variable {result : Except ViewError ViewBody}

/-- There is a body when the parts fit and all criteria can be read. -/
theorem exists_ok_iff (h : decl.Reads result) : (∃ body, result = .ok body) ↔
    decl.Fits ∧ PartReads decl.selection ∧ PartReads decl.exclude := by
  cases h with
  | read hfits hselection hexclude _ =>
    exact ⟨fun _ => ⟨hfits, hselection, hexclude⟩, fun _ => ⟨_, rfl⟩⟩
  | mismatch hmismatch =>
    exact ⟨fun ⟨_, hok⟩ => (nomatch hok), fun ⟨hfits, _⟩ => absurd hfits hmismatch.not_fits⟩
  | criteria _ hfirst =>
    exact ⟨fun ⟨_, hok⟩ => (nomatch hok), fun ⟨_, hreads⟩ => absurd hreads hfirst.not_reads⟩

/-- A body that is read shows what the parts say. -/
theorem shows {body : ViewBody} (h : decl.Reads (.ok body)) : decl.Shows body := by
  cases h with
  | read _ _ _ hshows => exact hshows

/-- Reading fails for criteria when the parts fit, and for the first error in them. -/
theorem eq_criteria_iff (h : decl.Reads result) {reason : CriteriaError} :
    result = .error (.criteria decl.id reason) ↔ decl.Fits ∧ decl.FirstFails reason := by
  cases h with
  | read _ hselection hexclude _ =>
    exact ⟨fun herror => (nomatch herror),
      fun ⟨_, hfirst⟩ => absurd ⟨hselection, hexclude⟩ hfirst.not_reads⟩
  | mismatch hmismatch =>
    exact ⟨fun herror => (nomatch herror), fun ⟨hfits, _⟩ => absurd hfits hmismatch.not_fits⟩
  | criteria hfits hfirst =>
    constructor
    · intro herror
      cases herror
      exact ⟨hfits, hfirst⟩
    · rintro ⟨-, hfirst'⟩
      rw [hfirst.unique hfirst']

/-- Reading fails for a mismatch when the parts do not fit. -/
theorem exists_mismatch_iff (h : decl.Reads result) :
    (∃ mismatch, result = .error (.invalid decl.id (.bodyMismatch mismatch)) ∧
      decl.Contradicts mismatch) ↔ ¬ decl.Fits := by
  cases h with
  | mismatch hmismatch => exact ⟨fun _ => hmismatch.not_fits, fun _ => ⟨_, rfl, hmismatch⟩⟩
  | read hfits | criteria hfits =>
    exact ⟨fun ⟨_, _, hmismatch⟩ => hmismatch.not_fits, fun hnot => absurd hfits hnot⟩

end Reads

namespace Shows

variable {body body' : ViewBody}

/-- The bodies of filtered views are those with a filter. -/
theorem filtered_iff (h : decl.Shows body) :
    (∃ base filter, body = .filtered base filter) ↔ decl.kind = .modeled .filtered := by
  cases body with
  | filtered base filter => exact ⟨fun _ => h.kind, fun _ => ⟨base, filter, rfl⟩⟩
  | explicit content | selection criteria flags exclude =>
    refine ⟨?_, fun hkind => absurd hkind h.kind⟩
    rintro ⟨base, filter, hbody⟩
    cases hbody

/-- A dynamic view shows a list. -/
theorem explicit_of_dynamic (h : decl.Shows body) (hkind : decl.kind = .modeled .dynamic) :
    ∃ content, body = .explicit content := by
  cases body with
  | filtered base filter => cases hkind.symm.trans h.kind
  | explicit content => exact ⟨content, rfl⟩
  | selection criteria flags exclude => exact absurd hkind h.dynamic

/-- The bodies of views with a selection are those with criteria. -/
theorem selection_iff (h : decl.Shows body) :
    (∃ criteria flags exclude, body = .selection criteria flags exclude) ↔
      decl.selection ≠ none := by
  cases body with
  | selection criteria flags exclude =>
    obtain ⟨written, hwritten, -⟩ := h.selection
    rw [hwritten]
    exact ⟨fun _ => Option.some_ne_none written, fun _ => ⟨criteria, flags, exclude, rfl⟩⟩
  | filtered base filter | explicit content =>
    refine ⟨?_, fun hselection => absurd h.parts.selection hselection⟩
    rintro ⟨criteria, flags, exclude, hbody⟩
    cases hbody

/-- Where a body shows what is given, the parts fit. -/
theorem fits (h : decl.Shows body) : decl.Fits := by
  cases body with
  | filtered base filter =>
    refine .filtered h.kind ?_ h.parts h.content
    rw [h.base]
    exact Option.some_ne_none base
  | explicit content =>
    by_cases hcontent : decl.content = none
    · exact .empty h.kind h.base h.mode hcontent h.parts
    · exact .explicit h.kind h.base h.mode hcontent h.parts
  | selection criteria flags exclude =>
    obtain ⟨written, hwritten, -⟩ := h.selection
    refine .selection h.kind h.base h.mode ?_ h.content h.dynamic
    rw [hwritten]
    exact Option.some_ne_none written

/-- Where a body shows what is given, all criteria can be read. -/
theorem reads (h : decl.Shows body) : PartReads decl.selection ∧ PartReads decl.exclude := by
  cases body with
  | filtered base filter | explicit content => exact h.parts.reads
  | selection criteria flags exclude =>
    obtain ⟨written, hwritten, hread⟩ := h.selection
    exact ⟨hwritten ▸ partReads_some hread, h.exclude.partReads⟩

/-- What is given is shown by one body only. -/
theorem unique (h : decl.Shows body) (h' : decl.Shows body') : body = body' := by
  -- the kind and whether there is a selection say which sort of body it is
  cases body with
  | filtered base filter =>
    obtain ⟨base', filter', rfl⟩ := h'.filtered_iff.2 h.kind
    rw [h.filter, h'.filter, Option.some.inj (h.base.symm.trans h'.base)]
  | selection criteria flags exclude =>
    obtain ⟨criteria', flags', exclude', rfl⟩ :=
      h'.selection_iff.2 (h.selection_iff.1 ⟨criteria, flags, exclude, rfl⟩)
    obtain ⟨written, hwritten, hread⟩ := h.selection
    obtain ⟨written', hwritten', hread'⟩ := h'.selection
    obtain rfl := Option.some.inj (hwritten.symm.trans hwritten')
    rw [Except.ok.inj (hread.symm.trans hread'), h.flags, h'.flags]
    congr 1
    exact h.exclude.unique h'.exclude
  | explicit content =>
    cases body' with
    | filtered base filter => exact absurd h'.kind h.kind
    | explicit content' => rw [h.content, h'.content]
    | selection criteria flags exclude =>
      exact absurd h.parts.selection (h'.selection_iff.1 ⟨criteria, flags, exclude, rfl⟩)

end Shows

/-! ### Whole views -/

variable {view : View} {error : ViewError}

/-- A view that is read has the body that is read for it, and its other parts are as written. -/
theorem view_eq_ok_iff : decl.view = .ok view ↔ decl.body = .ok view.body ∧
    view.id = decl.id ∧ view.kind = decl.kind ∧ view.title = decl.title ∧
      view.layout = decl.layout := by
  rw [ViewDecl.view]
  cases decl.body with
  | error error => exact ⟨fun h => (nomatch h), fun h => (nomatch h.1)⟩
  | ok body =>
    constructor
    · intro h
      cases h
      exact ⟨rfl, rfl, rfl, rfl, rfl⟩
    · rintro ⟨hbody, hid, hkind, htitle, hlayout⟩
      cases hbody
      cases view
      cases hid
      cases hkind
      cases htitle
      cases hlayout
      rfl

/-- A view is refused for its body. -/
theorem view_eq_error_iff : decl.view = .error error ↔ decl.body = .error error := by
  rw [ViewDecl.view]
  cases decl.body with
  | error error' => exact ⟨fun h => by cases h; rfl, fun h => by cases h; rfl⟩
  | ok body => exact ⟨fun h => (nomatch h), fun h => (nomatch h)⟩

/-- A view that is read has the name as written. -/
theorem id_of_view (h : decl.view = .ok view) : view.id = decl.id :=
  (view_eq_ok_iff.1 h).2.1

/-- A view that is read has the kind as written. -/
theorem kind_of_view (h : decl.view = .ok view) : view.kind = decl.kind :=
  (view_eq_ok_iff.1 h).2.2.1

/-- A view that cannot be read is refused for its parts or for its criteria. -/
theorem refusal_of_view (h : decl.view = .error error) : decl.Refusal error := by
  have hreads := decl.reads_body
  rw [view_eq_error_iff.1 h] at hreads
  cases hreads with
  | mismatch => exact .parts _
  | criteria => exact .criteria _

end ViewDecl

/-- How a view is read. -/
structure ReadsByParts [PatternEngine] (decl : ViewDecl) : Prop where
  /-- A view is accepted when its parts fit and all criteria that it has can be read. -/
  accepted_iff : (∃ view, decl.view = .ok view) ↔
    decl.Fits ∧ ViewDecl.PartReads decl.selection ∧ ViewDecl.PartReads decl.exclude
  /-- The name, the kind, the title and the layout are kept. -/
  kept : ∀ view, decl.view = .ok view → view.id = decl.id ∧ view.kind = decl.kind ∧
    view.title = decl.title ∧ view.layout = decl.layout
  /-- The body is the one that shows all parts that are given. -/
  shows_iff : ∀ body, (∃ view, decl.view = .ok view ∧ view.body = body) ↔ decl.Shows body
  /-- The filtered views are those that filter another one. -/
  filtered_iff : ∀ view, decl.view = .ok view →
    ((∃ base filter, view.body = .filtered base filter) ↔ view.kind = .modeled .filtered)
  /-- The views with a selection are those that show one. -/
  selection_iff : ∀ view, decl.view = .ok view →
    ((∃ criteria flags exclude, view.body = .selection criteria flags exclude) ↔
      decl.selection ≠ none)
  /-- Dynamic views show a list. -/
  explicit_of_dynamic : ∀ view, decl.view = .ok view → view.kind = .modeled .dynamic →
    ∃ content, view.body = .explicit content
  /-- The refusal of a view names it. -/
  error_view : ∀ error, decl.view = .error error → error.view = decl.id
  /-- A view is refused for the first error in its criteria when its parts fit. -/
  criteria_error_iff : ∀ reason, decl.view = .error (.criteria decl.id reason) ↔
    decl.Fits ∧ decl.FirstFails reason
  /-- Otherwise it is refused for a mismatch between its parts. -/
  mismatch_iff : (∃ mismatch, decl.view = .error (.invalid decl.id (.bodyMismatch mismatch)) ∧
    decl.Contradicts mismatch) ↔ ¬ decl.Fits

/-- Every view is read so. -/
theorem readsByParts [PatternEngine] (decl : ViewDecl) : ReadsByParts decl := by
  have hreads := decl.reads_body
  have hshows : ∀ {view}, decl.view = .ok view → decl.Shows view.body := by
    intro view hview
    exact ViewDecl.Reads.shows ((ViewDecl.view_eq_ok_iff.1 hview).1 ▸ hreads)
  have haccepted : (∃ view, decl.view = .ok view) ↔
      decl.Fits ∧ ViewDecl.PartReads decl.selection ∧ ViewDecl.PartReads decl.exclude := by
    rw [← hreads.exists_ok_iff]
    constructor
    · rintro ⟨view, hview⟩
      exact ⟨view.body, (ViewDecl.view_eq_ok_iff.1 hview).1⟩
    · rintro ⟨body, hbody⟩
      exact ⟨⟨decl.id, decl.kind, decl.title, decl.layout, body⟩,
        ViewDecl.view_eq_ok_iff.2 ⟨hbody, rfl, rfl, rfl, rfl⟩⟩
  refine ⟨haccepted, fun view hview => (ViewDecl.view_eq_ok_iff.1 hview).2, ?_, ?_,
    fun view hview => (hshows hview).selection_iff, ?_,
    fun error herror => (ViewDecl.refusal_of_view herror).view_eq,
    fun reason => ViewDecl.view_eq_error_iff.trans hreads.eq_criteria_iff, ?_⟩
  · intro body
    constructor
    · rintro ⟨view, hview, rfl⟩
      exact hshows hview
    · intro hbody
      obtain ⟨view, hview⟩ := haccepted.2 ⟨hbody.fits, hbody.reads⟩
      exact ⟨view, hview, (hshows hview).unique hbody⟩
  · intro view hview
    rw [ViewDecl.kind_of_view hview]
    exact (hshows hview).filtered_iff
  · intro view hview hdynamic
    exact (hshows hview).explicit_of_dynamic ((ViewDecl.kind_of_view hview).symm.trans hdynamic)
  · simp only [ViewDecl.view_eq_error_iff]
    exact hreads.exists_mismatch_iff

end Viewpoint
