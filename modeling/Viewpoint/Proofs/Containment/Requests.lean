import Viewpoint.Adjacency
import Viewpoint.Proofs.Containment.Schedule

/-!
# Requests for placements

A containment is asked to place elements, one request after the other, for any names and in any
order. The first request for an element is always granted and decides where the element lies. Every
later one either asks for the same place and changes nothing, or asks for another one and is
refused with the place that counts, which changes nothing either.

* `after` is the containment after a run of requests, and `FirstRequest` picks the request for an
  element that is made first.
* `Links` keep the holders and the lists of what is held apart, and `Links.follows_after` says that
  the two never disagree with each other or with the containment.
* `assign_eq_error_iff` says which requests are refused, and `after_append_of_parent?` that a
  request for an element that lies somewhere leaves everything as it is.
* `HoldsByFirst` tells all that can be asked after a run of requests, and `holdsByFirst` says that
  it holds after every run.
-/

namespace Viewpoint

namespace Containment

/-- The containment after a run of requests, which starts with nothing placed. -/
def after (requests : List Placement) : Containment :=
  (∅ : Containment).putAll requests

/-- The request at a position is the first one for its element. -/
structure FirstRequest (requests : List Placement) (position : Nat) (child parent : Ident) :
    Prop where
  /-- The request is made at this position. -/
  made : requests[position]? = some ⟨child, parent⟩
  /-- No request before it is for the same element. -/
  fresh : ∀ earlier < position, ∀ holder, requests[earlier]? ≠ some ⟨child, holder⟩

/-- Links in both directions, which are kept apart: from an element to the one that holds it, and
from an element to those that it holds. -/
structure Links where
  /-- The element that directly holds another. -/
  parent? : Ident → Option Ident
  /-- The elements directly inside an element. -/
  held : Index Ident

namespace Links

/-- Nothing is linked. -/
def empty : Links := ⟨fun _ => none, ∅⟩

/-- Links an element in both directions, unless it has a holder. That other holder, if it is not the
one given, is returned as the refusal. -/
def assign (links : Links) (child parent : Ident) : Except Ident Links :=
  match links.parent? child with
  | some kept => if kept = parent then .ok links else .error kept
  | none => .ok
    { parent? := Function.update links.parent? child (some parent)
      held := links.held.add parent child }

/-- Makes a request; one that is refused leaves the links as they are. -/
def put (links : Links) (request : Placement) : Links :=
  match links.assign request.child request.parent with
  | .ok linked => linked
  | .error _ => links

/-- The links after a run of requests, which starts with nothing linked. -/
def after (requests : List Placement) : Links :=
  requests.foldl put empty

/-- Both directions of the links say what a containment says. -/
structure Follows (links : Links) (c : Containment) : Prop where
  /-- Elements have the same holders. -/
  parent?_eq : ∀ id, links.parent? id = c.parent? id
  /-- Elements list what they hold in the same order. -/
  children_eq : ∀ id, links.held.get id = c.children id

end Links

/-- What a run of requests has led to, and what becomes of one more request. -/
structure HoldsByFirst (requests : List Placement) : Prop where
  /-- An element lies where the first request for it says. -/
  parent?_iff : ∀ child parent, (after requests).parent? child = some parent ↔
    ∃ position, FirstRequest requests position child parent
  /-- It stays there whatever else is requested. -/
  parent?_kept : ∀ child parent more, (after requests).parent? child = some parent →
    (after (requests ++ more)).parent? child = some parent
  /-- A request is refused exactly when the element lies elsewhere, and with this place. -/
  refused_iff : ∀ child parent kept, (after requests).assign child parent = .error kept ↔
    (after requests).parent? child = some kept ∧ kept ≠ parent
  /-- Where it is refused, the containment is the same as before. -/
  same_of_refused : ∀ child parent kept, (after requests).assign child parent = .error kept →
    after (requests ++ [⟨child, parent⟩]) = after requests
  /-- Where it is granted, the containment is the one that it gives. -/
  eq_of_granted : ∀ child parent placed, (after requests).assign child parent = .ok placed →
    after (requests ++ [⟨child, parent⟩]) = placed
  /-- An element lists those that are first requested to be placed in it. -/
  mem_children_iff : ∀ child parent, child ∈ (after requests).children parent ↔
    ∃ position, FirstRequest requests position child parent
  /-- None of them is listed twice. -/
  nodup_children : ∀ parent, ((after requests).children parent).Nodup
  /-- They are listed in the order of these requests. -/
  children_order : ∀ parent, ((after requests).children parent).Pairwise fun a b =>
    ∃ i j, FirstRequest requests i a parent ∧ FirstRequest requests j b parent ∧ i < j
  /-- A request that was granted is granted again and changes nothing, also for what is requested
  after it. -/
  repeated : ∀ before request between placed, requests = before ++ request :: between →
    (after before).assign request.child request.parent = .ok placed →
      (after requests).assign request.child request.parent = .ok (after requests) ∧
        ∀ more, after (requests ++ request :: more) = after (requests ++ more)
  /-- With the two directions kept apart, both are the same. -/
  links_follow : (Links.after requests).Follows (after requests)
  /-- The same requests are then refused, with the same places. -/
  links_refused_iff : ∀ child parent kept,
    (Links.after requests).assign child parent = .error kept ↔
      (after requests).assign child parent = .error kept

section Answers

variable {c placed : Containment} {child parent kept : Ident}

/-- A request is refused exactly when the element lies elsewhere. -/
theorem assign_eq_error_iff :
    c.assign child parent = .error kept ↔ c.parent? child = some kept ∧ kept ≠ parent := by
  cases h : c.parent? child with
  | none =>
    obtain ⟨placed, hplaced, -⟩ : ∃ placed, c.assign child parent = .ok placed ∧
        placed.placements = c.placements ++ [⟨child, parent⟩] := assign_of_none h
    simp [hplaced]
  | some holder =>
    rw [assign_of_some h]
    by_cases heq : holder = parent
    · rw [if_pos heq]
      simp only [reduceCtorEq, Option.some.injEq, false_iff, not_and, not_not]
      rintro rfl
      exact heq
    · rw [if_neg heq]
      simp only [Except.error.injEq, Option.some.injEq, iff_self_and]
      rintro rfl
      exact heq

/-- Where a request is granted, the element lies as requested. -/
theorem parent?_of_assign (h : c.assign child parent = .ok placed) :
    placed.parent? child = some parent := by
  have hput : c.put ⟨child, parent⟩ = placed := by rw [put, h]
  rw [← hput, parent?_put, if_pos rfl]
  cases hchild : c.parent? child with
  | none => rfl
  | some kept =>
    rw [assign_of_some hchild] at h
    split at h
    · next heq => rw [heq, Option.some_or]
    · cases h

/-- A placement that is made adds its element to the list of the holder, and one that is passed over
adds nothing. -/
theorem children_put (c : Containment) (placement : Placement) (id : Ident) :
    (c.put placement).children id =
      if c.parent? placement.child = none ∧ id = placement.parent
        then c.children id ++ [placement.child] else c.children id := by
  cases h : c.parent? placement.child with
  | some kept => rw [put_of_some h, if_neg (by simp)]
  | none =>
    rw [children, placements_put_of_none h, List.filter_append, List.map_append, ← children]
    by_cases hid : id = placement.parent
    · simp [hid]
    · simp [hid, Ne.symm hid]

end Answers

namespace Links

variable {links : Links} {c : Containment} {child parent kept : Ident}

/-- Links refuse a request exactly when the element has another holder. -/
theorem assign_eq_error_iff :
    links.assign child parent = .error kept ↔ links.parent? child = some kept ∧ kept ≠ parent := by
  unfold assign
  cases links.parent? child with
  | none => simp
  | some holder =>
    by_cases heq : holder = parent
    · simp +contextual [heq, eq_comm]
    · simp only [heq, if_false, Except.error.injEq, Option.some.injEq, iff_self_and]
      rintro rfl
      exact heq

/-- Nothing is linked where nothing is placed. -/
theorem follows_empty : empty.Follows ∅ :=
  ⟨fun _ => rfl, fun _ => rfl⟩

/-- A request does the same to the links as to the containment that they follow. -/
theorem Follows.put (h : links.Follows c) (request : Placement) :
    (links.put request).Follows (c.put request) := by
  cases hchild : c.parent? request.child with
  | some kept =>
    -- granted or refused, the links and the containment stay as they are
    have hput : links.put request = links := by
      rw [Links.put, assign, h.parent?_eq, hchild]
      by_cases heq : kept = request.parent
      · simp [heq]
      · simp [heq]
    rw [hput, put_of_some hchild]
    exact h
  | none =>
    have hput : links.put request =
        ⟨Function.update links.parent? request.child (some request.parent),
          links.held.add request.parent request.child⟩ := by
      rw [Links.put, assign, h.parent?_eq, hchild]
    rw [hput]
    refine ⟨fun id => ?_, fun id => ?_⟩
    · show Function.update links.parent? request.child (some request.parent) id = _
      rw [parent?_put, Function.update_apply, h.parent?_eq]
      by_cases hid : id = request.child
      · rw [if_pos hid, if_pos hid.symm, hid, hchild, Option.none_or]
      · rw [if_neg hid, if_neg (Ne.symm hid), Option.or_none]
    · rw [children_put, Index.get_add, h.children_eq, h.children_eq]
      by_cases hid : id = request.parent
      · rw [if_pos hid, if_pos ⟨hchild, hid⟩, hid]
      · rw [if_neg hid, if_neg fun hboth => hid hboth.2]

/-- After any run of requests both directions of the links say what the containment says. -/
theorem follows_after (requests : List Placement) :
    (after requests).Follows (Containment.after requests) := by
  -- by induction on the run, from any links that follow a containment
  have hrun : ∀ {links : Links} {c : Containment}, links.Follows c →
      (requests.foldl Links.put links).Follows (c.putAll requests) := by
    induction requests with
    | nil => exact fun h => h
    | cons request rest ih => exact fun h => ih (h.put request)
  exact hrun follows_empty

/-- Links refuse what the containment refuses that they follow. -/
theorem Follows.refused_iff (h : links.Follows c) :
    links.assign child parent = .error kept ↔ c.assign child parent = .error kept := by
  rw [assign_eq_error_iff, Containment.assign_eq_error_iff, h.parent?_eq]

end Links

variable {requests more : List Placement} {request : Placement} {child parent kept : Ident}
  {position : Nat}

/-- One run of requests after another goes on from what the first has led to. -/
theorem after_append (requests more : List Placement) :
    after (requests ++ more) = (after requests).putAll more :=
  putAll_append _ requests more

/-- Where an element lies, it stays. -/
theorem parent?_after_append (h : (after requests).parent? child = some parent) :
    (after (requests ++ more)).parent? child = some parent := by
  rw [after_append, parent?_putAll, h, Option.some_or]

/-- A request for an element that lies somewhere leaves everything as it is, also for what is
requested after it. -/
theorem after_append_of_parent? (h : (after requests).parent? request.child = some kept)
    (more : List Placement) : after (requests ++ request :: more) = after (requests ++ more) := by
  have hstep : (after requests).putAll (request :: more) =
      ((after requests).put request).putAll more := rfl
  rw [after_append, hstep, put_of_some h, after_append]

/-- The requests with their positions as turns. -/
def turnsOfRequests (requests : List Placement) : List (Nat × Placement) :=
  requests.mapIdx fun position request => (position, request)

theorem map_snd_turnsOfRequests (requests : List Placement) :
    (turnsOfRequests requests).map Prod.snd = requests := by
  refine List.ext_getElem? fun position => ?_
  simp [turnsOfRequests, Function.comp_def]

theorem pairwise_turnsOfRequests (requests : List Placement) :
    (turnsOfRequests requests).Pairwise fun a b => a.1 < b.1 := by
  refine List.pairwise_iff_getElem.2 fun i j hi hj hij => ?_
  simpa only [turnsOfRequests, List.getElem_mapIdx] using hij

theorem mem_turnsOfRequests :
    (position, request) ∈ turnsOfRequests requests ↔ requests[position]? = some request := by
  rw [turnsOfRequests, List.mem_mapIdx, List.getElem?_eq_some_iff]
  constructor
  · rintro ⟨i, hi, heq⟩
    cases heq
    exact ⟨hi, rfl⟩
  · rintro ⟨hi, rfl⟩
    exact ⟨position, hi, rfl⟩

/-- The first request for an element is the one whose turn is the least. -/
theorem firstInTurn_turnsOfRequests :
    FirstInTurn (turnsOfRequests requests) position ⟨child, parent⟩ ↔
      FirstRequest requests position child parent := by
  rw [FirstInTurn, mem_turnsOfRequests]
  constructor
  · rintro ⟨hmade, hleast⟩
    refine ⟨hmade, fun earlier hearlier holder hother => ?_⟩
    exact absurd (hleast _ (mem_turnsOfRequests.2 hother) rfl) (Nat.not_le.2 hearlier)
  · rintro ⟨hmade, hfresh⟩
    refine ⟨hmade, ?_⟩
    rintro ⟨other, ⟨child', holder⟩⟩ hother rfl
    exact Nat.not_lt.1 fun hlt => hfresh other hlt holder (mem_turnsOfRequests.1 hother)

/-- An element lies where the first request for it says. -/
theorem parent?_after_iff : (after requests).parent? child = some parent ↔
    ∃ position, FirstRequest requests position child parent := by
  have hparent : (Containment.putAll ∅ ((turnsOfRequests requests).map Prod.snd)).parent? child =
      some parent ↔ ∃ position, FirstInTurn (turnsOfRequests requests) position ⟨child, parent⟩ :=
    parent?_iff_firstInTurn (pairwise_turnsOfRequests requests)
  simp only [map_snd_turnsOfRequests, firstInTurn_turnsOfRequests] at hparent
  exact hparent

/-- An element lists what it holds in the order of the first requests. -/
theorem pairwise_children_after (requests : List Placement) (parent : Ident) :
    ((after requests).children parent).Pairwise fun a b =>
      ∃ i j, FirstRequest requests i a parent ∧ FirstRequest requests j b parent ∧ i < j := by
  have hpairwise := pairwise_children_of_schedule (pairwise_turnsOfRequests requests) parent
  simp only [map_snd_turnsOfRequests, firstInTurn_turnsOfRequests] at hpairwise
  exact hpairwise

/-- What is granted is what the run goes on from. -/
theorem after_append_singleton_of_assign {placed : Containment}
    (h : (after requests).assign child parent = .ok placed) :
    after (requests ++ [⟨child, parent⟩]) = placed := by
  have hput : (after requests).put ⟨child, parent⟩ = placed := by rw [put, h]
  rw [after_append, ← hput]
  rfl

/-- Once a request is granted, the element lies as requested from then on. -/
theorem parent?_of_granted {placed : Containment}
    (h : (after requests).assign request.child request.parent = .ok placed)
    (more : List Placement) :
    (after (requests ++ request :: more)).parent? request.child = some request.parent := by
  have hafter : after (requests ++ [request]) = placed := after_append_singleton_of_assign h
  rw [List.append_cons]
  refine parent?_after_append ?_
  rw [hafter]
  exact parent?_of_assign h

/-- After every run of requests it is the first request for each element that counts. -/
theorem holdsByFirst (requests : List Placement) : HoldsByFirst requests where
  parent?_iff _ _ := parent?_after_iff
  parent?_kept _ _ _ := parent?_after_append
  refused_iff _ _ _ := assign_eq_error_iff
  same_of_refused child parent kept hrefused := by
    have hsame : after (requests ++ [⟨child, parent⟩]) = after (requests ++ []) :=
      after_append_of_parent? (assign_eq_error_iff.1 hrefused).1 []
    rwa [List.append_nil] at hsame
  eq_of_granted _ _ _ := after_append_singleton_of_assign
  mem_children_iff child parent := Containment.mem_children_iff.trans parent?_after_iff
  nodup_children parent := Containment.nodup_children _ parent
  children_order := pairwise_children_after requests
  repeated before request between placed hrequests hgranted := by
    have hparent : (after requests).parent? request.child = some request.parent := by
      rw [hrequests]
      exact parent?_of_granted hgranted between
    exact ⟨by rw [assign_of_some hparent, if_pos rfl], after_append_of_parent? hparent⟩
  links_follow := Links.follows_after requests
  links_refused_iff _ _ _ := (Links.follows_after requests).refused_iff

example :
    let c := after [⟨⟨"web"⟩, ⟨"shop"⟩⟩, ⟨⟨"web"⟩, ⟨"acme"⟩⟩, ⟨⟨"web"⟩, ⟨"web"⟩⟩]
    c.assign ⟨"web"⟩ ⟨"acme"⟩ = .error ⟨"shop"⟩ ∧ c.children ⟨"shop"⟩ = [⟨"web"⟩] := by
  decide

end Containment

end Viewpoint
