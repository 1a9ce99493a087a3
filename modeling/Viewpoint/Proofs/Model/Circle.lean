import Viewpoint.Proofs.Model.Refusal

/-!
# Which circle is reported

A containment that runs in a circle is refused with a closed path of holders. The search that finds
it follows the holders of one root after the other, but not those that it has followed for an
earlier root, and it finds the same circle as if it followed all of them anew: the one that the walk
from the first root without an end runs into, from the member on at which the walk comes to it.

* `Containment.ComesToCircle` says which member of which circle that is.
* `FindsCircle` is what the search finds, for every containment and all roots.
* `findsCircle` says that it finds this, and that a path that is reported when a model is refused is
  a closed path of the placements that count.
-/

namespace Viewpoint

namespace Containment

variable {c : Containment} {roots path : List Ident} {root entry : Ident} {i j : Nat}

/-- The walk from the first root without an end comes to a circle at this member: it meets no member
of a circle before. -/
def ComesToCircle (c : Containment) (roots : List Ident) (start : Ident) : Prop :=
  ∃ earlier root later steps, roots = earlier ++ root :: later ∧
    (∀ other ∈ earlier, WalkEnds c.parent? other) ∧ ¬ WalkEnds c.parent? root ∧
    walk c.parent? steps root = some start ∧ LeadsTo c.parent? start start ∧
    ∀ k < steps, ∀ other, walk c.parent? k root = some other → ¬ LeadsTo c.parent? other other

/-- A walk that returns comes to a circle at the member to which it returns. -/
theorem comesToCircle_of_firstReturn {earlier later : List Ident}
    (hroots : roots = earlier ++ root :: later)
    (hearlier : ∀ other ∈ earlier, WalkEnds c.parent? other)
    (hreturn : FirstReturn c.parent? root i j) (hentry : walk c.parent? i root = some entry) :
    c.ComesToCircle roots entry := by
  have hcircle : LeadsTo c.parent? entry entry :=
    leadsTo_self_iff.2 ⟨_, (hreturn.circle hentry).closedPath⟩
  exact ⟨earlier, root, later, i, hroots, hearlier, hreturn.not_walkEnds, hentry, hcircle,
    fun k hk other hother => hreturn.not_leadsTo_self hk hother⟩

end Containment

/-- What the search for a circle finds from some roots. -/
structure FindsCircle (c : Containment) (roots : List Ident) : Prop where
  /-- It finds nothing exactly when the walk of holders from every root has an end. -/
  eq_none_iff : c.findCycle roots = none ↔ ∀ root ∈ roots, WalkEnds c.parent? root
  /-- Otherwise it finds a closed path of holders, from the member on at which the walk from the
  first root without an end comes to a circle. -/
  closedPath : ∀ path, c.findCycle roots = some path → ∃ start, c.ComesToCircle roots start ∧
    ClosedPath (fun child parent => c.parent? child = some parent) start path
  /-- The position that stands for a member that is not on the path is never needed. -/
  fallback_irrelevant : ∀ fallback, c.search fallback [] roots = c.findCycle roots

/-- The search for a circle finds the one that the walk from the first root without an end runs
into, and a circle that a model is refused for is a closed path of the placements that count. -/
theorem findsCircle :
    (∀ (c : Containment) (roots : List Ident), FindsCircle c roots) ∧
      ∀ (sources : List Source) (path : List Ident),
        (Model.build sources).value = .error (.containmentCycle path) →
          ∃ start, ClosedPath (HeldBy (declaredItems sources)) start path := by
  constructor
  · intro c roots
    rcases c.settled_nil.search_cases roots with
      ⟨hends, hnone⟩ | ⟨earlier, root, later, i, j, entry, hroots, hearlier, hreturn, hentry,
        hfound⟩
    · refine ⟨iff_of_true (hnone 0) hends, fun path hpath => ?_, fun fallback => ?_⟩
      · rw [Containment.findCycle, hnone] at hpath
        cases hpath
      · rw [Containment.findCycle, hnone, hnone]
    · refine ⟨iff_of_false ?_ fun hends => ?_, fun path hpath => ?_, fun fallback => ?_⟩
      · rw [Containment.findCycle, hfound]
        exact Option.some_ne_none _
      · exact hreturn.not_walkEnds (hends root (by simp [hroots]))
      · rw [Containment.findCycle, hfound] at hpath
        cases hpath
        exact ⟨entry, Containment.comesToCircle_of_firstReturn hroots hearlier hreturn hentry,
          (hreturn.circle hentry).closedPath⟩
      · rw [Containment.findCycle, hfound, hfound]
  · intro sources path hrefused
    -- names are distinct, so it is the model of the items that is refused
    rcases build_cases sources with ⟨id, first, duplicate, -, hvalue⟩ | ⟨-, hvalue⟩
    · rw [hvalue] at hrefused
      cases hrefused
    · rw [hvalue] at hrefused
      obtain ⟨path', heq, hcycle⟩ := Model.ofItems_eq_error hrefused
      cases heq
      obtain ⟨start, hpath⟩ := Containment.closedPath_of_findCycle hcycle
      exact ⟨start, hpath.closed, hpath.chain.imp fun _ _ => parent?_assemble_iff.1⟩

/-- A box in one of two others that lie in one another, by an owner and by a relation. -/
def whirlSources : List Source :=
  [{ name := "whirl"
     decls :=
      [.element (.node { id := "box", kind := .modeled .container, owner := some "left" } []),
        .element
          (.node { id := "left", kind := .modeled .container, owner := some "right" } []),
        .element (.node { id := "right", kind := .modeled .container } []),
        .relation { id := "right-in-left", kind := .modeled .containedIn, source := "right",
                    target := "left" }] }]

/-- The box is the first root, and the circle is reported from the other box on in which it lies. -/
theorem closedPath_whirlSources :
    (Model.build whirlSources).value =
        .error (.containmentCycle [⟨"left"⟩, ⟨"right"⟩, ⟨"left"⟩]) ∧
      ∃ start, ClosedPath (HeldBy (declaredItems whirlSources)) start
        [⟨"left"⟩, ⟨"right"⟩, ⟨"left"⟩] := by
  have hrefused : (Model.build whirlSources).value.map (fun _ => ()) =
      .error (.containmentCycle [⟨"left"⟩, ⟨"right"⟩, ⟨"left"⟩]) := by decide +kernel
  cases hvalue : (Model.build whirlSources).value with
  | ok built =>
    rw [hvalue] at hrefused
    cases hrefused
  | error error =>
    rw [hvalue] at hrefused
    cases hrefused
    exact ⟨rfl, findsCircle.2 whirlSources _ hvalue⟩

end Viewpoint
