import Mathlib.Order.Filter.Cofinite
import Viewpoint.Proofs.Criteria.ListKeys
import Viewpoint.Proofs.Criteria.Prefixes
import Viewpoint.Proofs.Model.SmallModels

/-!
# Predicates that say nothing

Some predicates hold of everything, such as the one that asks for a namespace below the empty path,
and some of nothing, such as the one that asks for one of no tags. Which ones they are can be read
off them: of each other predicate there is an item of which it holds, and one of which it does not.

Most of these items are bystanders: elements with nothing but a name and a kind, and with texts in
these that belong to them alone. No predicate mentions more than finitely many bystanders, so all
the others give it the same answer.

* `Predicate.IsAlways` and `Predicate.IsNever` are the predicates that hold of everything and of
  nothing.
* `Predicate.onBystanders` is the answer for bystanders, and `eventually_holds_bystander` says that
  all but finitely many give it.
* `Predicate.yields_false_iff` and `Predicate.yields_true_iff` say that there are items for both
  answers.
-/

namespace Viewpoint

namespace Predicate

/-- Predicates that hold of everything: the namespace is below the empty path, all texts of no texts
are there, or the maturity is any. -/
def IsAlways : Predicate → Prop
  | nameSpacePrefix path => path = ""
  | allTechs wanted => wanted = []
  | allTags wanted => wanted = []
  | maturities wanted => ∀ maturity, maturity ∈ wanted
  | _ => False

/-- Predicates that hold of nothing: the value is one of none, or matches a pattern that no text
matches. -/
def IsNever : Predicate → Prop
  | kinds wanted => wanted = []
  | ids wanted => wanted = []
  | nameSpaces paths => paths = []
  | techs wanted => wanted = []
  | tags wanted => wanted = []
  | maturities wanted => wanted = []
  | name pattern => ∀ text, pattern.isMatch text = false
  | desc pattern => ∀ text, pattern.isMatch text = false
  | doc pattern => ∀ text, pattern.isMatch text = false
  | _ => False

/-- There is an item of which the predicate has this answer. -/
def Yields (predicate : Predicate) (answer : Bool) : Prop :=
  ∃ model item, Occurs model item ∧ predicate.holds model item = answer

/-- The answer for an element that has nothing but a name and a kind, none of which are those that
the predicate mentions. -/
def onBystanders : Predicate → Bool
  | nameSpacePrefix path => path = ""
  | allTechs wanted => wanted.isEmpty
  | allTags wanted => wanted.isEmpty
  | external expected => !expected
  | isElement expected => expected
  | isRelation expected => !expected
  | maturity wanted => wanted = none
  | maturities wanted => wanted.contains none
  | _ => false

end Predicate

/-- A pattern that no text matches does not occur, and neither does any in an absent text. -/
theorem Pattern.matchesIn_eq_false {pattern : Pattern} {text : Option String}
    (h : ∀ text, pattern.isMatch text = false) : pattern.matchesIn text = false := by
  cases text with
  | none => rfl
  | some text => exact h text

variable {model : Model} {item : Item} {predicate : Predicate} {answer : Bool}

/-- Predicates that hold of everything do. -/
theorem Predicate.IsAlways.holds (h : predicate.IsAlways) : predicate.holds model item = true := by
  cases predicate with
  | nameSpacePrefix path =>
    have hempty : path = "" := h
    simp [Predicate.holds, hempty, liesBelow]
  | allTechs wanted | allTags wanted =>
    have hempty : wanted = [] := h
    simp [Predicate.holds, hempty]
  | maturities wanted =>
    have hall : ∀ maturity, maturity ∈ wanted := h
    simp [Predicate.holds, hall]
  | _ => exact h.elim

/-- Predicates that hold of nothing do not. -/
theorem Predicate.IsNever.holds (h : predicate.IsNever) : predicate.holds model item = false := by
  cases predicate with
  | kinds wanted | ids wanted | nameSpaces wanted | techs wanted | tags wanted
  | maturities wanted =>
    have hempty : wanted = [] := h
    simp [Predicate.holds, hempty]
  | name pattern | desc pattern | doc pattern => exact Pattern.matchesIn_eq_false h
  | _ => exact h.elim

/-- A name directly below a path. -/
def nameBelow (path : String) : Ident :=
  ⟨path ++ "/x"⟩

/-- The namespace of a name below a path is the path. -/
@[simp]
theorem nameSpace_nameBelow (path : String) : (nameBelow path).nameSpace = path := by
  have hlist : (path ++ "/x").toList = path.toList ++ pathSeparator :: ['x'] := by
    simp [pathSeparator]
  rw [nameBelow, Ident.nameSpace, hlist, dropLastSegment_append _ _ (by decide),
    String.ofList_toList]

/-- A text of its own for every number. -/
def ownText (n : Nat) : String :=
  String.ofList (List.replicate n 'x')

/-- An element with nothing but a name and a kind. -/
def bystander (n : Nat) : Element where
  id := nameBelow (ownText n)
  kind := .custom (ownText n)

/-- No two bystanders share their texts. -/
theorem injective_ownText : Function.Injective ownText := by
  intro m n h
  have hlength := congrArg (fun text => text.toList.length) h
  simpa [ownText] using hlength

/-- No two bystanders have the same name. -/
theorem injective_id_bystander : Function.Injective fun n => (bystander n).id := by
  intro m n h
  have hspace := congrArg Ident.nameSpace h
  simp only [bystander, nameSpace_nameBelow] at hspace
  exact injective_ownText hspace

/-- The kind of a bystander is one of these texts. -/
theorem kindTag_bystander (n : Nat) : (Item.element (bystander n)).kindTag = ownText n := rfl

/-- So is its namespace. -/
theorem nameSpace_bystander (n : Nat) : (Item.element (bystander n)).nameSpace = ownText n :=
  nameSpace_nameBelow _

/-- A text of one segment lies below itself and the empty path only. -/
theorem liesBelow_ownText {n : Nat} {path : String} (hne : path ≠ "") (hother : ownText n ≠ path) :
    liesBelow (ownText n).toList path.toList = false := by
  have hnil : path.toList ≠ [] := fun h => hne (String.toList_injective (by simpa using h))
  have hbelow : ¬ path.toList ++ [pathSeparator] <+: (ownText n).toList := by
    intro hprefix
    have hmem := hprefix.subset (List.mem_append_right _ List.mem_cons_self)
    rw [ownText, String.toList_ofList] at hmem
    exact absurd (List.eq_of_mem_replicate hmem) (by decide)
  rw [Bool.eq_false_iff, Ne, liesBelow_iff hnil]
  exact not_or.2 ⟨mt String.toList_inj.1 hother, hbelow⟩

/-- An element that carries nothing. -/
structure Item.IsBare (item : Item) : Prop where
  /-- It is an element. -/
  isElement : item.isElement = true
  /-- It is no relation. -/
  relation? : item.relation? = none
  /-- It has no display name. -/
  name : item.name = none
  /-- It has no description. -/
  desc : item.desc = none
  /-- It has no documentation. -/
  doc : item.doc = none
  /-- It is made with no technologies. -/
  tech : item.tech = []
  /-- It carries no tags. -/
  hasTag : ∀ tag, item.hasTag tag = false
  /-- It is established. -/
  maturity : item.maturity = none
  /-- It is not external. -/
  isExternal : item.isExternal = false

/-- Bystanders are bare. -/
theorem isBare_bystander (n : Nat) : (Item.element (bystander n)).IsBare :=
  ⟨rfl, rfl, rfl, rfl, rfl, rfl, fun _ => rfl, rfl, rfl⟩

/-- Only finitely many members of a family without repetition are in a list. -/
theorem eventually_notMem {α : Type} {family : Nat → α} (h : Function.Injective family)
    (list : List α) : ∀ᶠ n in Filter.cofinite, ∀ a ∈ list, family n ≠ a := by
  have hfinite := (List.finite_toSet list).eventually_cofinite_notMem
  filter_upwards [h.tendsto_cofinite.eventually hfinite] with n hn a ha heq
  exact hn (heq ▸ ha)

/-- All but finitely many bystanders give a predicate the answer of bystanders. -/
theorem eventually_holds_bystander (predicate : Predicate) : ∀ᶠ n in Filter.cofinite,
    predicate.holds (bystander n).model (.element (bystander n)) = predicate.onBystanders := by
  cases predicate with
  -- the bystanders whose texts are mentioned are left out
  | kind tag =>
    filter_upwards [eventually_notMem injective_ownText [tag]] with n hn
    exact decide_eq_false (hn tag List.mem_cons_self)
  | kinds tags =>
    filter_upwards [eventually_notMem injective_ownText tags] with n hn
    rw [Predicate.holds, kindTag_bystander]
    exact List.any_eq_false.2 fun tag htag => by simpa using hn tag htag
  | id id =>
    filter_upwards [eventually_notMem injective_id_bystander [id]] with n hn
    exact decide_eq_false (hn id List.mem_cons_self)
  | ids ids =>
    filter_upwards [eventually_notMem injective_id_bystander ids] with n hn
    simpa [Predicate.holds, Predicate.onBystanders, Item.id] using fun hmem => hn _ hmem rfl
  | nameSpace path =>
    filter_upwards [eventually_notMem injective_ownText [path]] with n hn
    rw [Predicate.holds, nameSpace_bystander]
    exact decide_eq_false (hn path List.mem_cons_self)
  | nameSpaces paths =>
    filter_upwards [eventually_notMem injective_ownText paths] with n hn
    rw [Predicate.holds, nameSpace_bystander]
    exact List.any_eq_false.2 fun path hpath => by simpa using hn path hpath
  | nameSpacePrefix path =>
    filter_upwards [eventually_notMem injective_ownText [path]] with n hn
    rw [Predicate.holds, nameSpace_bystander, Predicate.onBystanders]
    by_cases hpath : path = ""
    · simp [hpath, liesBelow]
    · rw [liesBelow_ownText hpath (hn path List.mem_cons_self), decide_eq_false hpath]
  -- all bystanders carry nothing
  | allTechs wanted | allTags wanted =>
    refine .of_forall fun n => ?_
    cases wanted with
    | nil => rfl
    | cons value rest =>
      simp [Predicate.holds, Predicate.onBystanders, (isBare_bystander n).tech,
        (isBare_bystander n).hasTag]
  | maturity wanted =>
    refine .of_forall fun n => ?_
    simp [Predicate.holds, Predicate.onBystanders, (isBare_bystander n).maturity, eq_comm]
  | tech | techs | tag | tags | external | isElement | isRelation | maturities | name | desc
  | doc | source | target =>
    refine .of_forall fun n => ?_
    obtain ⟨helement, hrelation, hname, hdesc, hdoc, htech, htag, hmaturity, hexternal⟩ :=
      isBare_bystander n
    simp [Predicate.holds, Predicate.onBystanders, Pattern.matchesIn, Item.isRelation, *]
  -- nothing is around them
  | refersTo | referredBy => exact .of_forall fun n => rfl
  | childOf | parentOf | descendantOf | ancestorOf =>
    refine .of_forall fun n => ?_
    have howner : (bystander n).owner = none := rfl
    simp [Predicate.holds, Predicate.onBystanders, parent?_alone howner, isAncestor_alone howner]

/-- An element that stands alone is an item to show what a predicate answers. -/
theorem Predicate.Yields.of_alone (e : Element) (howner : e.owner = none)
    (h : predicate.holds e.model (.element e) = answer) : predicate.Yields answer :=
  ⟨_, _, occurs_alone howner, h⟩

/-- So is a relation from an element to itself. -/
theorem Predicate.Yields.of_loop (id : Ident)
    (h : predicate.holds (loopModel id) (.relation (loopAt id)) = answer) :
    predicate.Yields answer :=
  ⟨_, _, occurs_loopAt id, h⟩

/-- Bystanders show what is answered for them. -/
theorem Predicate.yields_onBystanders (predicate : Predicate) :
    predicate.Yields predicate.onBystanders := by
  obtain ⟨n, hn⟩ := (eventually_holds_bystander predicate).exists
  exact .of_alone (bystander n) rfl hn

/-- Some elements are external and some are not. -/
theorem Predicate.yields_external (expected answer : Bool) :
    (Predicate.external expected).Yields answer := by
  refine .of_alone { nodeAt ⟨"a"⟩ with external := expected == answer } rfl ?_
  cases expected <;> cases answer <;> rfl

/-- Some items are elements and some are relations. -/
theorem Predicate.yields_isElement (expected answer : Bool) :
    (Predicate.isElement expected).Yields answer := by
  match expected, answer with
  | true, true | false, false => exact .of_alone (nodeAt ⟨"a"⟩) rfl rfl
  | true, false | false, true => exact .of_loop ⟨"a"⟩ rfl

/-- Relations are the items that are no elements. -/
theorem Predicate.yields_isRelation (expected answer : Bool) :
    (Predicate.isRelation expected).Yields answer := by
  match expected, answer with
  | true, true | false, false => exact .of_loop ⟨"a"⟩ rfl
  | true, false | false, true => exact .of_alone (nodeAt ⟨"a"⟩) rfl rfl

/-- A predicate fails for some item unless it holds of everything. -/
theorem Predicate.yields_false_iff : predicate.Yields false ↔ ¬ predicate.IsAlways := by
  constructor
  · rintro ⟨model, item, -, hfails⟩ halways
    rw [halways.holds] at hfails
    cases hfails
  intro hnot
  cases hanswer : predicate.onBystanders with
  | false => exact hanswer ▸ predicate.yields_onBystanders
  | true =>
    -- bystanders pass, so an item is needed that has what they have not
    cases predicate with
    | nameSpacePrefix path => exact absurd (of_decide_eq_true hanswer) hnot
    | allTechs wanted | allTags wanted => exact absurd (List.isEmpty_iff.1 hanswer) hnot
    | external expected => exact yields_external expected false
    | isElement expected => exact yields_isElement expected false
    | isRelation expected => exact yields_isRelation expected false
    | maturity wanted =>
      have hwanted : wanted = none := of_decide_eq_true hanswer
      subst hwanted
      exact .of_alone { nodeAt ⟨"a"⟩ with maturity := some .proposed } rfl rfl
    | maturities wanted =>
      obtain ⟨maturity, hmaturity⟩ : ∃ maturity, maturity ∉ wanted := not_forall.1 hnot
      refine .of_alone { nodeAt ⟨"a"⟩ with maturity } rfl ?_
      simpa [holds, Item.maturity] using hmaturity
    | _ => cases hanswer

/-- A predicate holds of some item unless it holds of nothing. -/
theorem Predicate.yields_true_iff : predicate.Yields true ↔ ¬ predicate.IsNever := by
  constructor
  · rintro ⟨model, item, -, hholds⟩ hnever
    rw [hnever.holds] at hholds
    cases hholds
  intro hnot
  cases predicate with
  -- an element with a name, a kind or something that it carries
  | id id => exact .of_alone (nodeAt id) rfl (by simp [holds, Item.id, nodeAt])
  | ids ids =>
    obtain ⟨id, hid⟩ := List.exists_mem_of_ne_nil ids hnot
    exact .of_alone (nodeAt id) rfl (by simpa [holds, Item.id, nodeAt] using hid)
  | nameSpace path =>
    exact .of_alone (nodeAt (nameBelow path)) rfl
      (by simp [holds, Item.nameSpace, Item.id, nodeAt])
  | nameSpaces paths =>
    obtain ⟨path, hpath⟩ := List.exists_mem_of_ne_nil paths hnot
    exact .of_alone (nodeAt (nameBelow path)) rfl
      (by simpa [holds, Item.nameSpace, Item.id, nodeAt] using hpath)
  | nameSpacePrefix path =>
    exact .of_alone (nodeAt (nameBelow path)) rfl
      (by simp [holds, Item.nameSpace, Item.id, nodeAt, liesBelow])
  | kind tag =>
    exact .of_alone { nodeAt ⟨"a"⟩ with kind := .ofTag tag } rfl
      (by simp [holds, Item.kindTag])
  | kinds tags =>
    obtain ⟨tag, htag⟩ := List.exists_mem_of_ne_nil tags hnot
    exact .of_alone { nodeAt ⟨"a"⟩ with kind := .ofTag tag } rfl
      (by simpa [holds, Item.kindTag] using htag)
  | tech text =>
    exact .of_alone { nodeAt ⟨"a"⟩ with tech := [text] } rfl
      (by simp [holds, Item.tech, occursWithin_self])
  | techs wanted =>
    obtain ⟨tech, htech⟩ := List.exists_mem_of_ne_nil wanted hnot
    exact .of_alone { nodeAt ⟨"a"⟩ with tech := [tech] } rfl
      (by simpa [holds, Item.tech] using htech)
  | allTechs wanted =>
    exact .of_alone { nodeAt ⟨"a"⟩ with tech := wanted } rfl (by simp [holds, Item.tech])
  | tag tag =>
    exact .of_alone { nodeAt ⟨"a"⟩ with tags := .ofList [tag] } rfl
      (by simp [holds, Item.hasTag, Item.tags, TagSet.contains])
  | tags wanted =>
    obtain ⟨tag, htag⟩ := List.exists_mem_of_ne_nil wanted hnot
    exact .of_alone { nodeAt ⟨"a"⟩ with tags := .ofList [tag] } rfl
      (by simpa [holds, Item.hasTag, Item.tags, TagSet.contains] using htag)
  | allTags wanted =>
    exact .of_alone { nodeAt ⟨"a"⟩ with tags := .ofList wanted } rfl
      (by simp [holds, Item.hasTag, Item.tags, TagSet.contains])
  | maturity maturity =>
    exact .of_alone { nodeAt ⟨"a"⟩ with maturity } rfl (by simp [holds, Item.maturity])
  | maturities wanted =>
    obtain ⟨maturity, hmaturity⟩ := List.exists_mem_of_ne_nil wanted hnot
    exact .of_alone { nodeAt ⟨"a"⟩ with maturity } rfl
      (by simpa [holds, Item.maturity] using hmaturity)
  | external expected => exact yields_external expected true
  | isElement expected => exact yields_isElement expected true
  | isRelation expected => exact yields_isRelation expected true
  | name pattern =>
    obtain ⟨text, htext⟩ : ∃ text, pattern.isMatch text = true := by simpa [IsNever] using hnot
    exact .of_alone { nodeAt ⟨"a"⟩ with name := some text } rfl htext
  | desc pattern =>
    obtain ⟨text, htext⟩ : ∃ text, pattern.isMatch text = true := by simpa [IsNever] using hnot
    exact .of_alone { nodeAt ⟨"a"⟩ with desc := some text } rfl htext
  | doc pattern =>
    obtain ⟨text, htext⟩ : ∃ text, pattern.isMatch text = true := by simpa [IsNever] using hnot
    exact .of_alone { nodeAt ⟨"a"⟩ with doc := some text } rfl htext
  -- a relation from an element to itself
  | source id | target id | refersTo id | referredBy id =>
    refine .of_loop id ?_
    simp [holds, Item.relation?, Model.leadsTo, Model.ledToFrom, loopAt]
  -- an element inside another one
  | childOf id =>
    refine ⟨_, _, (occurs_held (append_separator_ne id)).1, ?_⟩
    simp [holds, Item.isElement, Item.id, nodeIn, parent?_heldModel]
  | parentOf id =>
    refine ⟨_, _, (occurs_held (append_separator_ne id).symm).2, ?_⟩
    simp [holds, Item.isElement, Item.id, nodeAt, parent?_heldModel]
  | descendantOf id =>
    refine ⟨_, _, (occurs_held (append_separator_ne id)).1, ?_⟩
    simp [holds, Item.isElement, Item.id, nodeIn, isAncestor_heldModel]
  | ancestorOf id =>
    refine ⟨_, _, (occurs_held (append_separator_ne id).symm).2, ?_⟩
    simp [holds, Item.isElement, Item.id, nodeAt, isAncestor_heldModel]

end Viewpoint
