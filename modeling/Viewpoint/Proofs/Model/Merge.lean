import Viewpoint.Model.Build

/-!
# Merging declarations

Merging succeeds only when all names are distinct, and then it keeps every declaration in its place:
the merged items are the flattened declarations of the sources, one source after the other.

* `sitedDeclarations` are the declarations of all sources with their places, and `value_merge` says
  that merging adds them one by one.
* `addDistinct_eq_ok` says what has been added without refusal.
* `value_build` and `build_eq_ok` reduce the building of a model to its items.
-/

namespace Viewpoint

/-- The flattened declarations of all sources, in order. -/
def declaredItems (sources : List Source) : List Item :=
  sources.flatMap Source.items

/-- The flattened items of a top-level declaration. -/
def Decl.items (decl : Decl) : List Item :=
  decl.unfold.map Declared.item

/-- The items of a source are those of its declarations. -/
theorem Source.items_eq_flatMap (source : Source) :
    source.items = source.decls.flatMap Decl.items := by
  rw [items, unfold, List.map_flatMap]
  rfl

/-- The record that writes an element. -/
def Element.raw (e : Element) : RawElement where
  id := e.id.text
  kind := e.kind
  name := e.name
  desc := e.desc
  doc := e.doc
  tech := e.tech
  tags := e.tags.toList
  maturity := e.maturity
  external := e.external
  owner := e.owner.map Ident.text

/-- The record that writes a relation. -/
def Relation.raw (r : Relation) : RawRelation where
  id := r.id.text
  kind := r.kind
  source := r.source.text
  target := r.target.text
  name := r.name
  desc := r.desc
  tech := r.tech
  tags := r.tags.toList
  direction := r.direction

/-- The element that is made of its record is the same. -/
theorem Element.toElement_raw (e : Element) : e.raw.toElement e.raw.declaredOwner? = e := by
  have howner : e.raw.declaredOwner? = e.owner := by
    rw [raw, RawElement.declaredOwner?, Option.map_map]
    exact Option.map_id'
  rw [RawElement.toElement_eq, howner, raw, TagSet.ofList_toList]

/-- The relation that is made of its record is the same. -/
theorem Relation.toRelation_raw (r : Relation) : r.raw.toRelation = r := by
  rw [RawRelation.toRelation_eq, raw, TagSet.ofList_toList]

/-- The declaration of an item alone. -/
def Item.decl : Item → Decl
  | element e => .element (.node e.raw [])
  | relation r => .relation r.raw

/-- It declares the item and nothing else. -/
theorem Item.items_decl (item : Item) : item.decl.items = [item] := by
  cases item with
  | element e =>
    rw [decl, Decl.items, Decl.unfold, ElementTree.unfold_node]
    exact congrArg (fun e => [element e]) e.toElement_raw
  | relation r => exact congrArg (fun r => [relation r]) r.toRelation_raw

/-- A source of items alone declares these items. -/
theorem declaredItems_map_decl (name : String) (items : List Item) :
    declaredItems [⟨name, items.map Item.decl⟩] = items := by
  rw [declaredItems, List.flatMap_singleton, Source.items_eq_flatMap, List.flatMap_map]
  simp only [Item.items_decl, List.flatMap_singleton']

/-- The names of the declarations collected so far. -/
def sitedIds (merged : List Sited) : List Ident :=
  merged.map (·.item.id)

/-- A source's declarations with their places are its flattened declarations. -/
theorem map_item_sited (source : Source) (index : Nat) :
    (source.sited index).map Sited.item = source.items := by
  refine List.ext_getElem? fun position => ?_
  simp [Source.sited, Function.comp_def]

/-- The positions in a list follow each other. -/
theorem pairwise_snd_zipIdx {α : Type} (list : List α) :
    list.zipIdx.Pairwise fun a b => a.2 < b.2 := by
  rw [← List.pairwise_map, List.zipIdx_map_snd]
  exact List.pairwise_lt_range' 1

/-- All declarations with their places, in order. -/
def sitedDeclarations (sources : List Source) : List Sited :=
  sources.zipIdx.flatMap fun entry => entry.1.sited entry.2

/-- Without the places there remain the declared items. -/
theorem map_item_sitedDeclarations (sources : List Source) :
    (sitedDeclarations sources).map Sited.item = declaredItems sources := by
  have hitems : declaredItems sources = sources.zipIdx.flatMap fun entry => entry.1.items := by
    rw [declaredItems, ← List.zipIdx_map_fst 0 sources, List.flatMap_map, List.zipIdx_map_fst]
  rw [sitedDeclarations, List.map_flatMap, hitems]
  congr 1
  funext entry
  exact map_item_sited entry.1 entry.2

/-- The names of the declarations, with their places or without. -/
theorem sitedIds_sitedDeclarations (sources : List Source) :
    sitedIds (sitedDeclarations sources) = (declaredItems sources).map Item.id := by
  rw [← map_item_sitedDeclarations, List.map_map]
  rfl

/-- Declarations that are added without refusal stand behind the earlier ones under new names. -/
theorem addDistinct_eq_ok {merged next out : List Sited} (h : addDistinct merged next = .ok out)
    (hnodup : (sitedIds merged).Nodup) : out = merged ++ next ∧ (sitedIds out).Nodup := by
  -- by induction on what is added: each declaration joins those that the next one must differ from
  induction next generalizing merged with
  | nil =>
    cases h
    exact ⟨(List.append_nil _).symm, hnodup⟩
  | cons first rest ih =>
    rw [addDistinct] at h
    split at h
    · cases h
    · next hfree =>
      have hfresh : first.item.id ∉ sitedIds merged := by
        simpa [sitedIds] using hfree
      have hnodup' : (sitedIds (merged ++ [first])).Nodup := by
        rw [sitedIds, List.map_append, List.nodup_append]
        refine ⟨hnodup, by simp, ?_⟩
        intro id hid other hother heq
        have hfirst : other = first.item.id := by simpa using hother
        exact hfresh (hfirst ▸ heq ▸ hid)
      obtain ⟨hout, hids⟩ := ih h hnodup'
      exact ⟨by rw [hout, List.append_assoc, List.singleton_append], hids⟩

/-- Adding declarations in two runs is adding them in one. -/
theorem addDistinct_append (merged first second : List Sited) :
    addDistinct merged (first ++ second) =
      (addDistinct merged first).bind fun added => addDistinct added second := by
  induction first generalizing merged with
  | nil => rfl
  | cons head rest ih =>
    rw [List.cons_append, addDistinct, addDistinct]
    cases merged.find? (·.item.id = head.item.id) with
    | none => exact ih _
    | some first => rfl

/-- Merging sources adds their declarations one by one. -/
theorem value_merge (merged : List Sited) (entries : List (Source × Nat)) :
    (merge merged entries).value =
      addDistinct merged (entries.flatMap fun entry => entry.1.sited entry.2) := by
  induction entries generalizing merged with
  | nil => rfl
  | cons entry rest ih =>
    obtain ⟨source, index⟩ := entry
    rw [merge, Logged.value_bind, List.flatMap_cons, addDistinct_append]
    cases addDistinct merged (source.sited index) with
    | error error => rfl
    | ok added => exact ih added

/-- Building merges all declarations and then makes a model of them. -/
theorem value_build (sources : List Source) :
    (Model.build sources).value =
      (addDistinct [] (sitedDeclarations sources)).bind
        fun merged => Model.ofItems (merged.map Sited.item) := by
  rw [Model.build, Logged.value_bind, value_merge, ← sitedDeclarations]
  cases addDistinct [] (sitedDeclarations sources) with
  | error error => rfl
  | ok merged =>
    -- the notices that are made on the way change nothing
    cases hresult : Model.ofItems (merged.map Sited.item) with
    | error error =>
      simp only [hresult, Except.bind]
      rfl
    | ok built =>
      simp only [hresult, Except.bind]
      rfl

/-- A model that is built is the model of the declared items, which have distinct names. -/
theorem build_eq_ok {sources : List Source} {built : Built}
    (h : (Model.build sources).value = .ok built) :
    Model.ofItems (declaredItems sources) = .ok built ∧
      ((declaredItems sources).map Item.id).Nodup := by
  rw [value_build] at h
  cases hadded : addDistinct [] (sitedDeclarations sources) with
  | error error =>
    rw [hadded] at h
    cases h
  | ok merged =>
    obtain ⟨rfl, hnodup⟩ := addDistinct_eq_ok hadded List.nodup_nil
    rw [hadded, List.nil_append] at h
    rw [List.nil_append, sitedIds_sitedDeclarations] at hnodup
    exact ⟨map_item_sitedDeclarations sources ▸ h, hnodup⟩

/-- A result is there when evaluating something of it gives a value. -/
theorem exists_ok_of_map {ε α β : Type} {made : Except ε α} {observe : α → β} {value : β}
    (h : made.map observe = .ok value) : ∃ result, made = .ok result ∧ observe result = value := by
  cases made with
  | error error => cases h
  | ok result => exact ⟨result, rfl, Except.ok.inj h⟩

/-- A model is built when evaluating something of it gives a value. -/
theorem exists_built_of_map {α : Type} {sources : List Source} {observe : Built → α} {value : α}
    (h : (Model.build sources).value.toOption.map observe = some value) :
    ∃ built, (Model.build sources).value = .ok built ∧ observe built = value := by
  cases hbuilt : (Model.build sources).value with
  | error error =>
    rw [hbuilt] at h
    cases h
  | ok built =>
    rw [hbuilt] at h
    exact ⟨built, rfl, Option.some.inj h⟩

end Viewpoint
