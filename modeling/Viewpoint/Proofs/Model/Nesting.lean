import Mathlib.Data.List.Lex
import Viewpoint.Proofs.Model.Forest

/-!
# Nested declarations

Elements may be nested to any depth. What a source writes stands at a path, which counts first the
declarations of the source and then, from element to element, what is directly inside. Flattening
lists what stands at the paths, in their order. Every field is carried over as it is written, only
that an element that is enclosed is owned by the one that encloses it, whatever owner it declares.

* `Decl.CarriedBy` says that an item has every field of what is written.
* `InPathOrder` says that a list holds what stands at the paths, in their order, and
  `Source.inPathOrder_unfold` that flattening lists what a source writes so.
* `parent?_of_enclosing?` says that an enclosed element lies in the one that encloses it.
* `Flattened` tells how a source is flattened, and `flattens_nested` that every source is so.
-/

namespace Viewpoint

/-! ### Paths -/

/-- What a declaration writes at a path: each number counts the elements that are directly inside
the one before. -/
def Decl.within? : Decl → List Nat → Option Decl
  | decl, [] => some decl
  | .element (.node _ children), i :: path =>
    children[i]?.bind fun child => (Decl.element child).within? path
  | .relation _, _ :: _ => none

/-- The name of the element that a declaration writes. -/
def Decl.elementId? : Decl → Option Ident
  | element (.node raw _) => some ⟨raw.id⟩
  | relation _ => none

namespace Source

/-- What a source writes at a path: the first number counts its declarations, and each further one
the elements that are directly inside the one before. -/
def written? (source : Source) : List Nat → Option Decl
  | [] => none
  | i :: path => source.decls[i]?.bind fun decl => decl.within? path

/-- The element that directly encloses what is written at a path. -/
def enclosing? (source : Source) (path : List Nat) : Option Ident :=
  (source.written? path.dropLast).bind Decl.elementId?

/-- The item that is declared at a path. Its owner is the element that encloses it, if there is one,
and otherwise the owner that it declares. -/
def itemAt? (source : Source) (path : List Nat) : Option Item :=
  (source.written? path).map fun
    | .element (.node raw _) =>
      .element (raw.toElement ((source.enclosing? path).or raw.declaredOwner?))
    | .relation raw => .relation raw.toRelation

/-- The owner that is overridden at a path: an element is written there whose owner is another one
than the element that encloses it. -/
def overrideAt? (source : Source) (path : List Nat) : Option OwnerOverride :=
  match source.written? path, source.enclosing? path with
  | some (.element (.node raw _)), some enclosing =>
    (raw.declaredOwner?.filter (· ≠ enclosing)).map fun declared =>
      ⟨⟨raw.id⟩, declared, enclosing⟩
  | _, _ => none

end Source

/-- A list has one member for each path at which something stands, namely this. The members are in
the order of their paths: number by number, and a path comes before those that go on from it. -/
def InPathOrder {α : Type} (at? : List Nat → Option α) (list : List α) : Prop :=
  ∃ paths : List (List Nat), paths.Pairwise (· < ·) ∧
    (∀ path, path ∈ paths ↔ ∃ a, at? path = some a) ∧ paths.filterMap at? = list

/-- What stands within the member of a list with a given number, at paths that count the members
first. -/
def atNumber {α : Type} (i : Nat) (at? : List Nat → Option α) : List Nat → Option α
  | [] => none
  | j :: path => if j = i then at? path else none

/-- What stands within the members of a list, at paths that count the members first. -/
def atMembers {α β : Type} (members : List β) (at? : β → List Nat → Option α) :
    List Nat → Option α
  | [] => none
  | i :: path => members[i]?.bind fun b => at? b path

section Members

variable {α β : Type} {at? : β → List Nat → Option α} {members : List β} {path : List Nat} {a : α}

/-- Paths within a member begin with its number. -/
theorem exists_of_atNumber {at? : List Nat → Option α} {i : Nat}
    (h : atNumber i at? path = some a) : ∃ rest, path = i :: rest := by
  cases path with
  | nil => cases h
  | cons j rest =>
    rw [atNumber] at h
    split at h
    · next hj => exact ⟨rest, by rw [hj]⟩
    · cases h

/-- Paths within members begin with their numbers. -/
theorem exists_of_atMembers (h : atMembers members at? path = some a) :
    ∃ i rest, path = i :: rest ∧ i < members.length := by
  cases path with
  | nil => cases h
  | cons i rest =>
    obtain ⟨b, hb, -⟩ := Option.bind_eq_some_iff.1 h
    exact ⟨i, rest, rfl, (List.getElem?_eq_some_iff.1 hb).1⟩

/-- Nothing stands within no members. -/
theorem atMembers_nil : atMembers ([] : List β) at? = fun _ => none := by
  funext path
  cases path <;> rfl

/-- One more member at the end has the next number. -/
theorem atMembers_append_singleton (members : List β) (b : β) :
    atMembers (members ++ [b]) at? =
      fun path => (atMembers members at? path).or (atNumber members.length (at? b) path) := by
  funext path
  cases path with
  | nil => rfl
  | cons i path =>
    rw [atMembers, atMembers, atNumber]
    rcases Nat.lt_trichotomy i members.length with hi | rfl | hi
    · rw [List.getElem?_append_left hi, if_neg hi.ne, Option.or_none]
    · simp
    · have hnone : (members ++ [b])[i]? = none := by simp; omega
      rw [hnone, if_neg hi.ne', List.getElem?_eq_none hi.le]
      rfl

end Members

namespace InPathOrder

variable {α β : Type} {at? at?' : List Nat → Option α} {list list' : List α}

/-- The members are what stands at the paths. -/
theorem mem_iff (h : InPathOrder at? list) {a : α} : a ∈ list ↔ ∃ path, at? path = some a := by
  obtain ⟨paths, -, hmem, rfl⟩ := h
  rw [List.mem_filterMap]
  exact ⟨fun ⟨path, _, ha⟩ => ⟨path, ha⟩, fun ⟨path, ha⟩ => ⟨path, (hmem path).2 ⟨a, ha⟩, ha⟩⟩

/-- What is made of some of the members stands where they do. -/
theorem filterMap (h : InPathOrder at? list) (f : α → Option β) :
    InPathOrder (fun path => (at? path).bind f) (list.filterMap f) := by
  obtain ⟨paths, hsorted, hmem, rfl⟩ := h
  refine ⟨paths.filter fun path => ((at? path).bind f).isSome, hsorted.filter _, fun path => ?_, ?_⟩
  · rw [List.mem_filter, hmem, Option.isSome_iff_exists]
    refine and_iff_right_of_imp ?_
    rintro ⟨b, hb⟩
    obtain ⟨a, ha, -⟩ := Option.bind_eq_some_iff.1 hb
    exact ⟨a, ha⟩
  · rw [List.filterMap_filter, List.filterMap_filterMap]
    refine List.filterMap_congr fun path _ => ?_
    cases (at? path).bind f <;> rfl

/-- What is made of the members stands where they do. -/
theorem map (h : InPathOrder at? list) (f : α → β) :
    InPathOrder (fun path => (at? path).map f) (list.map f) := by
  simp only [Option.map_eq_bind]
  rw [← List.filterMap_eq_map]
  exact h.filterMap (some ∘ f)

/-- Nothing stands anywhere. -/
theorem nil : InPathOrder (fun _ => (none : Option α)) [] :=
  ⟨[], List.Pairwise.nil, by simp, rfl⟩

/-- One thing stands at the start. -/
theorem singleton (a : α) : InPathOrder (fun path => if path = [] then some a else none) [a] := by
  refine ⟨[[]], List.pairwise_singleton _ _, fun path => ?_, rfl⟩
  by_cases hpath : path = []
  · simp [hpath]
  · simp [hpath]

/-- Of two lists the one with the earlier paths comes first. -/
theorem append (h : InPathOrder at? list) (h' : InPathOrder at?' list')
    (hlt : ∀ path path' a a', at? path = some a → at?' path' = some a' → path < path') :
    InPathOrder (fun path => (at? path).or (at?' path)) (list ++ list') := by
  obtain ⟨paths, hsorted, hmem, rfl⟩ := h
  obtain ⟨paths', hsorted', hmem', rfl⟩ := h'
  refine ⟨paths ++ paths', List.pairwise_append.2 ⟨hsorted, hsorted', ?_⟩, fun path => ?_, ?_⟩
  · intro path hpath path' hpath'
    obtain ⟨a, ha⟩ := (hmem path).1 hpath
    obtain ⟨a', ha'⟩ := (hmem' path').1 hpath'
    exact hlt path path' a a' ha ha'
  · rw [List.mem_append, hmem, hmem']
    simp only [← Option.isSome_iff_exists, Option.isSome_or, Bool.or_eq_true]
  · rw [List.filterMap_append]
    congr 1
    · refine List.filterMap_congr fun path hpath => ?_
      obtain ⟨a, ha⟩ := (hmem path).1 hpath
      rw [ha, Option.some_or]
    · refine List.filterMap_congr fun path hpath => ?_
      obtain ⟨a', ha'⟩ := (hmem' path).1 hpath
      -- nothing of the first list stands here, or this path would come before itself
      cases ha : at? path with
      | none => rw [Option.none_or]
      | some a => exact absurd (hlt path path a a' ha ha') (lt_irrefl path)

/-- What stands within the member with a given number comes in the same order. -/
theorem under (h : InPathOrder at? list) (i : Nat) : InPathOrder (atNumber i at?) list := by
  obtain ⟨paths, hsorted, hmem, rfl⟩ := h
  refine ⟨paths.map (i :: ·), ?_, fun path => ?_, ?_⟩
  · rw [List.pairwise_map]
    exact hsorted.imp fun hlt => List.cons_lt_cons_iff.2 (.inr ⟨rfl, hlt⟩)
  · cases path with
    | nil => simp [atNumber]
    | cons j path =>
      by_cases hj : j = i
      · simp [atNumber, hj, hmem]
      · simp [atNumber, hj, Ne.symm hj]
  · rw [List.filterMap_map]
    exact List.filterMap_congr fun path _ => if_pos rfl

/-- What stands within the members comes member by member. -/
theorem flatMap {at? : β → List Nat → Option α} {list : β → List α} (members : List β)
    (h : ∀ b ∈ members, InPathOrder (at? b) (list b)) :
    InPathOrder (atMembers members at?) (members.flatMap list) := by
  -- by induction on the members from the back, which leaves the numbers of the others as they are
  induction members using List.reverseRecOn with
  | nil =>
    rw [atMembers_nil]
    exact nil
  | append_singleton members b ih =>
    have hbefore := ih fun b' hb' => h b' (List.mem_append_left _ hb')
    have hlast := (h b (List.mem_append_right _ (List.mem_singleton_self b))).under members.length
    rw [List.flatMap_append, List.flatMap_singleton, atMembers_append_singleton]
    refine hbefore.append hlast fun path path' a a' ha ha' => ?_
    obtain ⟨i, rest, rfl, hi⟩ := exists_of_atMembers ha
    obtain ⟨rest', rfl⟩ := exists_of_atNumber ha'
    exact List.cons_lt_cons_iff.2 (.inl hi)

end InPathOrder

/-! ### Flattened declarations -/

namespace Decl

/-- A declaration without what it encloses. -/
def declared (enclosing : Option Ident) : Decl → Declared
  | element (.node raw _) => .element enclosing raw
  | relation raw => .relation raw

/-- The element that directly encloses what is written at a path within a declaration. The
declaration itself may be enclosed too. -/
def enclosingAt? (enclosing : Option Ident) (decl : Decl) (path : List Nat) : Option Ident :=
  if path = [] then enclosing else (decl.within? path.dropLast).bind elementId?

/-- What is written at a path within a declaration, with the element directly around it. -/
def declaredAt? (enclosing : Option Ident) (decl : Decl) (path : List Nat) : Option Declared :=
  (decl.within? path).map (declared (decl.enclosingAt? enclosing path))

variable {enclosing : Option Ident} {raw : RawElement} {children : List ElementTree}
  {child : ElementTree} {i : Nat} {path : List Nat}

/-- What is directly inside an element is enclosed by this element. -/
theorem enclosingAt?_cons (hchild : children[i]? = some child) :
    (element (.node raw children)).enclosingAt? enclosing (i :: path) =
      (element child).enclosingAt? (some ⟨raw.id⟩) path := by
  rw [enclosingAt?, if_neg (List.cons_ne_nil i path)]
  cases path with
  | nil => rfl
  | cons j path =>
    rw [enclosingAt?, if_neg (List.cons_ne_nil j path),
      List.dropLast_cons_of_ne_nil (List.cons_ne_nil j path), within?, hchild, Option.bind_some]

/-- An element stands at the start, and further on are the elements that it encloses. -/
theorem declaredAt?_node (enclosing : Option Ident) (raw : RawElement)
    (children : List ElementTree) :
    (element (.node raw children)).declaredAt? enclosing =
      fun path => (if path = [] then some (.element enclosing raw) else none).or
        (atMembers children (fun child => (element child).declaredAt? (some ⟨raw.id⟩)) path) := by
  funext path
  cases path with
  | nil => rfl
  | cons i path =>
    rw [if_neg (List.cons_ne_nil i path), Option.none_or, atMembers, declaredAt?, within?]
    cases hchild : children[i]? with
    | none => rfl
    | some child =>
      rw [Option.bind_some, Option.bind_some, enclosingAt?_cons hchild]
      rfl

/-- What is flattened of an element stands together in what is flattened of any around it. -/
theorem unfold_infix {tree inner : ElementTree}
    (h : (element tree).within? path = some (element inner)) :
    inner.unfold ((element tree).enclosingAt? enclosing path) <:+: tree.unfold enclosing := by
  -- by induction on the path, which leads from the outer element to the inner one
  induction path generalizing tree enclosing with
  | nil =>
    rw [within?] at h
    cases h
    exact List.infix_rfl
  | cons i path ih =>
    obtain ⟨raw, children⟩ := tree
    obtain ⟨child, hchild, hinner⟩ := Option.bind_eq_some_iff.1 h
    rw [enclosingAt?_cons hchild, ElementTree.unfold_node, List.flatMap_def]
    exact ((ih hinner).trans (List.infix_of_mem_flatten
      (List.mem_map_of_mem (List.mem_of_getElem? hchild)))).trans (List.suffix_cons _ _).isInfix

end Decl

/-- Flattening an element lists what stands at the paths within it. -/
theorem ElementTree.inPathOrder_unfold (enclosing : Option Ident) :
    ∀ tree : ElementTree,
      InPathOrder ((Decl.element tree).declaredAt? enclosing) (tree.unfold enclosing)
  | .node raw children => by
    rw [Decl.declaredAt?_node, unfold_node]
    have hchildren := InPathOrder.flatMap children fun child _ =>
      inPathOrder_unfold (some ⟨raw.id⟩) child
    -- the element stands at the empty path, which comes before all that go on from it
    refine (InPathOrder.singleton _).append hchildren fun path path' a a' ha ha' => ?_
    obtain ⟨i, rest, rfl, -⟩ := exists_of_atMembers ha'
    split at ha
    · next hpath =>
      rw [hpath]
      exact List.nil_lt_cons i rest
    · cases ha

/-- Flattening a declaration lists what stands at the paths within it. -/
theorem Decl.inPathOrder_unfold (decl : Decl) :
    InPathOrder (decl.declaredAt? none) decl.unfold := by
  cases decl with
  | element tree => exact tree.inPathOrder_unfold none
  | relation raw =>
    have hat : (relation raw).declaredAt? none =
        fun path => if path = [] then some (.relation raw) else none := by
      funext path
      cases path <;> rfl
    rw [hat]
    exact InPathOrder.singleton _

namespace Source

variable {source : Source} {path : List Nat}

/-- What is written at a path, with the element directly around it. -/
def declaredAt? (source : Source) (path : List Nat) : Option Declared :=
  (source.written? path).map (Decl.declared (source.enclosing? path))

/-- What stands at the top level is not enclosed. -/
theorem enclosing?_cons {decl : Decl} {i : Nat} (hdecl : source.decls[i]? = some decl) :
    source.enclosing? (i :: path) = decl.enclosingAt? none path := by
  rw [enclosing?]
  cases path with
  | nil => rfl
  | cons j path =>
    rw [Decl.enclosingAt?, if_neg (List.cons_ne_nil j path),
      List.dropLast_cons_of_ne_nil (List.cons_ne_nil j path), written?, hdecl, Option.bind_some]

/-- What is written in a source is written in its declarations. -/
theorem declaredAt?_eq_atMembers (source : Source) :
    source.declaredAt? = atMembers source.decls (Decl.declaredAt? none) := by
  funext path
  cases path with
  | nil => rfl
  | cons i path =>
    rw [declaredAt?, written?, atMembers]
    cases hdecl : source.decls[i]? with
    | none => rfl
    | some decl =>
      rw [Option.bind_some, Option.bind_some, enclosing?_cons hdecl]
      rfl

/-- Flattening a source lists what stands at its paths. -/
theorem inPathOrder_unfold (source : Source) : InPathOrder source.declaredAt? source.unfold := by
  rw [declaredAt?_eq_atMembers]
  exact InPathOrder.flatMap source.decls fun decl _ => decl.inPathOrder_unfold

/-- The item at a path is that of what is written there. -/
theorem itemAt?_eq (source : Source) :
    source.itemAt? = fun path => (source.declaredAt? path).map Declared.item := by
  funext path
  rw [itemAt?, declaredAt?, Option.map_map]
  congr 1
  funext decl
  rcases decl with ⟨raw, children⟩ | raw
  · cases source.enclosing? path <;> rfl
  · rfl

/-- The owner that is overridden at a path is that of what is written there. -/
theorem overrideAt?_eq (source : Source) :
    source.overrideAt? = fun path => (source.declaredAt? path).bind Declared.override? := by
  funext path
  rw [overrideAt?, declaredAt?]
  rcases source.written? path with _ | ⟨⟨raw, children⟩ | raw⟩
  · rfl
  · rcases source.enclosing? path with _ | enclosing
    · rfl
    · show (raw.declaredOwner?.filter _).map _ = raw.declaredOwner?.bind _
      cases raw.declaredOwner? with
      | none => rfl
      | some declared =>
        by_cases hsame : declared = enclosing
        · simp [hsame, Option.filter]
        · simp [hsame, Option.filter]
  · rfl

/-- The flattened declarations are the items that stand at the paths. -/
theorem inPathOrder_items (source : Source) : InPathOrder source.itemAt? source.items := by
  rw [itemAt?_eq, items]
  exact source.inPathOrder_unfold.map Declared.item

/-- The overridden owners are those of what stands at the paths. -/
theorem inPathOrder_overrides (source : Source) :
    InPathOrder source.overrideAt? source.overrides := by
  rw [overrideAt?_eq, overrides]
  exact source.inPathOrder_unfold.filterMap Declared.override?

/-- What is flattened of an element stands together in what is flattened of its source. -/
theorem unfold_infix {tree : ElementTree} (h : source.written? path = some (.element tree)) :
    tree.unfold (source.enclosing? path) <:+: source.unfold := by
  cases path with
  | nil => cases h
  | cons i path =>
    obtain ⟨decl, hdecl, hwithin⟩ := Option.bind_eq_some_iff.1 h
    have houter : tree.unfold (source.enclosing? (i :: path)) <:+: decl.unfold := by
      rw [enclosing?_cons hdecl]
      cases decl with
      | element outer => exact Decl.unfold_infix hwithin
      | relation raw => cases path <;> cases hwithin
    rw [unfold, List.flatMap_def]
    exact houter.trans (List.infix_of_mem_flatten
      (List.mem_map_of_mem (List.mem_of_getElem? hdecl)))

/-- Nothing is overridden where no element encloses another. -/
theorem overrides_map_decl (name : String) (items : List Item) :
    overrides ⟨name, items.map Item.decl⟩ = [] := by
  rw [overrides, unfold, List.filterMap_eq_nil_iff]
  intro declared hdeclared
  obtain ⟨decl, hdecl, hdeclared⟩ := List.mem_flatMap.1 hdeclared
  obtain ⟨item, -, rfl⟩ := List.mem_map.1 hdecl
  cases item with
  | element e =>
    rw [Item.decl, Decl.unfold, ElementTree.unfold_node] at hdeclared
    cases List.mem_singleton.1 hdeclared
    rfl
  | relation r =>
    cases List.mem_singleton.1 hdeclared
    rfl

/-- An element that is written is declared, with the owner that it gets. -/
theorem mem_items_of_written? {raw : RawElement} {children : List ElementTree}
    (h : source.written? path = some (.element (.node raw children))) :
    .element (raw.toElement ((source.enclosing? path).or raw.declaredOwner?)) ∈ source.items := by
  rw [source.inPathOrder_items.mem_iff]
  exact ⟨path, by rw [itemAt?, h]; rfl⟩

/-- What encloses something is an element that is declared. -/
theorem exists_mem_items_of_enclosing? {outer : Ident} (h : source.enclosing? path = some outer) :
    ∃ e, Item.element e ∈ source.items ∧ e.id = outer := by
  obtain ⟨decl, hwritten, hid⟩ := Option.bind_eq_some_iff.1 h
  rcases decl with ⟨raw, children⟩ | raw
  · cases hid
    exact ⟨_, mem_items_of_written? hwritten, raw.toElement_id _⟩
  · cases hid

end Source

/-- In every model that is built, an element that is enclosed by another lies in it. -/
theorem parent?_of_enclosing? {sources : List Source} {built : Built}
    (h : (Model.build sources).value = .ok built) {source : Source} (hsource : source ∈ sources)
    {path : List Nat} {raw : RawElement} {children : List ElementTree} {outer : Ident}
    (hraw : source.written? path = some (.element (.node raw children)))
    (houter : source.enclosing? path = some outer) :
    built.model.parent? ⟨raw.id⟩ = some outer := by
  obtain ⟨hmodel, hnodup⟩ := assemble_of_build h
  have hdeclared : ∀ item ∈ source.items, item ∈ declaredItems sources :=
    fun item hitem => List.mem_flatMap.2 ⟨source, hsource, hitem⟩
  -- the element is declared with the one that encloses it as its owner, and this one is declared
  have hmem := hdeclared _ (Source.mem_items_of_written? hraw)
  rw [houter, Option.some_or] at hmem
  obtain ⟨around, haround, hid⟩ := Source.exists_mem_items_of_enclosing? houter
  have hknown : isElementOf (declaredItems sources) outer = true :=
    isElementOf_iff.2 ⟨around, hdeclared _ haround, hid⟩
  have hparent := parent?_of_owner hnodup hmem
    (Option.filter_eq_some_iff.2 ⟨raw.toElement_owner _, hknown⟩)
  rw [raw.toElement_id] at hparent
  rw [hmodel]
  exact hparent

/-! ### Fields -/

/-- An element has every field of its record: the technologies as they are listed, of the tags the
set, and all else as it is written. Its owner is what encloses it, if anything does, and otherwise
the one that it declares. -/
structure RawElement.CarriedBy (raw : RawElement) (enclosing : Option Ident) (e : Element) :
    Prop where
  /-- The name. -/
  id : e.id.text = raw.id
  /-- The kind. -/
  kind : e.kind = raw.kind
  /-- The display name, or that there is none. -/
  name : e.name = raw.name
  /-- The description, or that there is none. -/
  desc : e.desc = raw.desc
  /-- The documentation, or that there is none. -/
  doc : e.doc = raw.doc
  /-- The technologies, in their order and with repetitions. -/
  tech : e.tech = raw.tech
  /-- The tags, in whatever order they are listed and however often. -/
  tags : ∀ tag, tag ∈ e.tags.toList ↔ tag ∈ raw.tags
  /-- The maturity, or that there is none. -/
  maturity : e.maturity = raw.maturity
  /-- Whether it lies outside. -/
  external : e.external = raw.external
  /-- What encloses the element owns it. -/
  enclosing_owns : ∀ outer, enclosing = some outer → e.owner = some outer
  /-- If nothing does, its owner is the one that is written, or there is none. -/
  owner : enclosing = none → e.owner.map Ident.text = raw.owner

/-- A relation has every field of its record. -/
structure RawRelation.CarriedBy (raw : RawRelation) (r : Relation) : Prop where
  /-- The name. -/
  id : r.id.text = raw.id
  /-- The kind. -/
  kind : r.kind = raw.kind
  /-- Where it starts. -/
  source : r.source.text = raw.source
  /-- Where it ends. -/
  target : r.target.text = raw.target
  /-- The display name, or that there is none. -/
  name : r.name = raw.name
  /-- The description, or that there is none. -/
  desc : r.desc = raw.desc
  /-- The technologies, in their order and with repetitions. -/
  tech : r.tech = raw.tech
  /-- The tags, in whatever order they are listed and however often. -/
  tags : ∀ tag, tag ∈ r.tags.toList ↔ tag ∈ raw.tags
  /-- The direction, or that there is none. -/
  direction : r.direction = raw.direction

/-- An item is of the same sort as what a declaration writes and has every field of it. -/
def Decl.CarriedBy (enclosing : Option Ident) : Decl → Item → Prop
  | element (.node raw _), .element e => raw.CarriedBy enclosing e
  | relation raw, .relation r => raw.CarriedBy r
  | _, _ => False

/-- The element that is made of a record has every field of it. -/
theorem RawElement.carriedBy_toElement (raw : RawElement) (enclosing : Option Ident) :
    raw.CarriedBy enclosing (raw.toElement (enclosing.or raw.declaredOwner?)) := by
  rw [toElement_eq]
  refine ⟨rfl, rfl, rfl, rfl, rfl, rfl, fun tag => TagSet.mem_ofList, rfl, rfl, ?_, ?_⟩
  · rintro outer rfl
    rfl
  · rintro rfl
    rw [Option.none_or, declaredOwner?, Option.map_map]
    exact Option.map_id'

/-- The relation that is made of a record has every field of it. -/
theorem RawRelation.carriedBy_toRelation (raw : RawRelation) : raw.CarriedBy raw.toRelation := by
  rw [toRelation_eq]
  exact ⟨rfl, rfl, rfl, rfl, rfl, rfl, rfl, fun tag => TagSet.mem_ofList, rfl⟩

/-- What is written at a path is declared there with every field. -/
theorem Source.exists_carriedBy {source : Source} {path : List Nat} {decl : Decl}
    (h : source.written? path = some decl) :
    ∃ item, source.itemAt? path = some item ∧ decl.CarriedBy (source.enclosing? path) item := by
  rw [itemAt?, h]
  rcases decl with ⟨raw, children⟩ | raw
  · exact ⟨_, rfl, raw.carriedBy_toElement _⟩
  · exact ⟨_, rfl, raw.carriedBy_toRelation⟩

/-! ### All sources -/

/-- How a source is flattened. -/
structure Flattened (source : Source) : Prop where
  /-- There is one flattened declaration for each that is written, and they are in the order of
  their paths. -/
  items_order : InPathOrder source.itemAt? source.items
  /-- Each has every field of what is written. Elements that are enclosed are owned by what directly
  encloses them, and the others by the owners that they declare. -/
  carried : ∀ path decl, source.written? path = some decl →
    ∃ item, source.itemAt? path = some item ∧ decl.CarriedBy (source.enclosing? path) item
  /-- An element is immediately followed by the elements that are directly inside it, each with all
  that it encloses. -/
  followed : ∀ path raw children, source.written? path = some (.element (.node raw children)) →
    ∃ e, raw.CarriedBy (source.enclosing? path) e ∧
      (.element e :: children.flatMap fun child =>
        (child.unfold (some ⟨raw.id⟩)).map Declared.item) <:+: source.items
  /-- In the same order it is noted which elements declare another owner than the one that encloses
  them. -/
  notices_order : ∃ overrides, InPathOrder source.overrideAt? overrides ∧
    source.notices = overrides.map OwnerOverride.notice
  /-- The flattened declarations, written side by side, are flattened to themselves, and nothing is
  noted. -/
  rewritten : ∀ name, Source.items ⟨name, source.items.map Item.decl⟩ = source.items ∧
    Source.notices ⟨name, source.items.map Item.decl⟩ = []
  /-- In every model that is built from the source and others, an element that is enclosed lies in
  what directly encloses it. -/
  enclosing_holds : ∀ sources built, source ∈ sources → (Model.build sources).value = .ok built →
    ∀ path raw children outer, source.written? path = some (.element (.node raw children)) →
      source.enclosing? path = some outer → built.model.parent? ⟨raw.id⟩ = some outer

/-- Every source is flattened in the order in which it is written, with every field. -/
theorem flattens_nested (source : Source) : Flattened source := by
  refine ⟨source.inPathOrder_items, fun path decl => Source.exists_carriedBy, ?_,
    ⟨_, source.inPathOrder_overrides, rfl⟩, ?_, ?_⟩
  · intro path raw children hraw
    have hinfix := (Source.unfold_infix hraw).map Declared.item
    rw [ElementTree.unfold_node, List.map_cons, List.map_flatMap] at hinfix
    have hitem : (Declared.element (source.enclosing? path) raw).item =
        .element (raw.toElement ((source.enclosing? path).or raw.declaredOwner?)) := by
      cases source.enclosing? path <;> rfl
    rw [hitem] at hinfix
    exact ⟨_, raw.carriedBy_toElement _, hinfix⟩
  · intro name
    have hitems := declaredItems_map_decl name source.items
    rw [declaredItems, List.flatMap_singleton] at hitems
    refine ⟨hitems, ?_⟩
    rw [Source.notices, Source.overrides_map_decl, List.map_nil]
  · intro sources built hsource h path raw children outer
    exact parent?_of_enclosing? h hsource

/-- The element that encloses another holds it, although a declared owner and a relation say
otherwise. -/
theorem flattens_nested_shopSources :
    ∃ built, (Model.build shopSources).value = .ok built ∧
      (built.model.relation? ⟨"web-in-queue"⟩).map Relation.target = some ⟨"shop/queue"⟩ ∧
      built.model.parent? ⟨"shop/web"⟩ = some ⟨"shop"⟩ := by
  obtain ⟨built, hbuilt, hrelation⟩ :
      ∃ built, (Model.build shopSources).value = .ok built ∧
        (built.model.relation? ⟨"web-in-queue"⟩).map Relation.target = some ⟨"shop/queue"⟩ :=
    exists_built_of_map (by decide +kernel)
  have hflattened := flattens_nested (shopSources.head (List.cons_ne_nil _ _))
  have hparent := hflattened.enclosing_holds shopSources built (List.head_mem _) hbuilt [0, 0]
  exact ⟨built, hbuilt, hrelation, hparent _ _ _ rfl rfl⟩

end Viewpoint
