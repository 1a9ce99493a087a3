import Viewpoint.Exchange.Reading

/-!
# Items that can be read

Reading makes the kind of an item from a tag, so a custom kind never has a modeled tag. Everything
else that an item may hold can be written and read. So what is read, at any depth of nesting, can be
written and read again.

* `Item.Readable` says that the kind of an item is the one that its tag names.
* `Source.readable_of_decoder` says that the items of a source that is read are readable.
-/

namespace Viewpoint

/-- The kind of the item is the one that its tag names. -/
def Item.Readable : Item → Prop
  | element e => ElementKind.ofTag e.kind.tag = e.kind
  | relation r => RelationKind.ofTag r.kind.tag = r.kind

/-- All elements of the tree are readable, whatever the tree is enclosed by. -/
def ElementTree.Readable (tree : ElementTree) : Prop :=
  ∀ enclosing, ∀ declared ∈ tree.unfold enclosing, declared.item.Readable

/-- What a run of steps gives is given by some of the steps. -/
theorem exists_of_mem_mapM {α β : Type} {step : α → Option β} {members : List α} {values : List β}
    (h : members.mapM step = some values) {value : β} (hvalue : value ∈ values) :
    ∃ a, step a = some value := by
  induction members generalizing values with
  | nil =>
    cases h
    exact absurd hvalue List.not_mem_nil
  | cons a rest ih =>
    rw [List.mapM_cons] at h
    obtain ⟨first, hfirst, h⟩ := Option.bind_eq_some_iff.1 h
    obtain ⟨others, hothers, h⟩ := Option.bind_eq_some_iff.1 h
    cases h
    rcases List.mem_cons.1 hvalue with rfl | hvalue
    · exact ⟨a, hfirst⟩
    · exact ih hothers hvalue

namespace Decoder

variable {α : Type} {levels : Nat} {json : Json}

/-- The members of a list that is read are read themselves. -/
theorem exists_of_mem_list {decoder : Decoder α} {values : List α}
    (h : decoder.list levels json = some values) {value : α} (hvalue : value ∈ values) :
    ∃ levels json, decoder levels json = some value := by
  cases levels with
  | zero => cases h
  | succ levels =>
    cases json with
    | arr items =>
      obtain ⟨json, hjson⟩ := exists_of_mem_mapM h hvalue
      exact ⟨levels, json, hjson⟩
    | _ => cases h

/-- A choice is read by one of the decoders. -/
theorem exists_of_tagged {decoders : List (String × Decoder α)} {value : α}
    (h : tagged decoders levels json = some value) :
    ∃ tag decoder levels json, (tag, decoder) ∈ decoders ∧ decoder levels json = some value := by
  unfold tagged at h
  split at h
  · next levels tag json =>
    obtain ⟨decoder, hdecoder, h⟩ := Option.bind_eq_some_iff.1 h
    obtain ⟨before, after, hsplit, -⟩ := List.lookup_eq_some_iff.1 hdecoder
    exact ⟨tag, decoder, levels, json, by simp [hsplit], h⟩
  · cases h

end Decoder

namespace Record

variable {α β : Type} {record : Record} {name : String} {decoder : Decoder α}

/-- A field with a default has the default or is read. -/
theorem eq_default_or_exists_of_getD {default value : α}
    (h : record.getD name decoder default = some value) :
    value = default ∨ ∃ levels json, decoder levels json = some value := by
  rw [getD] at h
  split at h
  · exact Or.inl (Option.some.inj h).symm
  · exact Or.inr ⟨_, _, h⟩

/-- A field that is made from what is read has a value that can be made. -/
theorem exists_of_required_map {f : α → β} {value : β}
    (h : record.required name (decoder.map f) = some value) : ∃ a, f a = value := by
  obtain ⟨json, -, h⟩ := Option.bind_eq_some_iff.1 h
  obtain ⟨a, -, rfl⟩ := Option.map_eq_some_iff.1 h
  exact ⟨a, rfl⟩

end Record

/-- An element that is read has the kind that its tag names. -/
theorem RawElement.ofTag_tag_of_ofRecord? {record : Record} {raw : RawElement}
    (h : ofRecord? record = some raw) : ElementKind.ofTag raw.kind.tag = raw.kind := by
  obtain ⟨id, -, h⟩ := Option.bind_eq_some_iff.1 h
  obtain ⟨kind, hkind, h⟩ := Option.bind_eq_some_iff.1 h
  obtain ⟨tag, rfl⟩ := Record.exists_of_required_map hkind
  simp only [Option.bind_eq_bind, Option.bind_eq_some_iff, Option.pure_def,
    Option.some.injEq] at h
  obtain ⟨name, -, desc, -, doc, -, tech, -, tags, -, maturity, -, external, -, owner, -, rfl⟩ := h
  exact congrArg ElementKind.ofTag (ElementKind.tag_ofTag tag)

/-- A relation that is read has the kind that its tag names. -/
theorem RawRelation.readable_of_decoder {levels : Nat} {json : Json} {raw : RawRelation}
    (h : decoder levels json = some raw) : (Item.relation raw.toRelation).Readable := by
  obtain ⟨record, -, h⟩ := Option.bind_eq_some_iff.1 h
  obtain ⟨id, -, h⟩ := Option.bind_eq_some_iff.1 h
  obtain ⟨kind, hkind, h⟩ := Option.bind_eq_some_iff.1 h
  obtain ⟨tag, rfl⟩ := Record.exists_of_required_map hkind
  simp only [Option.bind_eq_bind, Option.bind_eq_some_iff, Option.pure_def,
    Option.some.injEq] at h
  obtain ⟨source, -, target, -, name, -, desc, -, tech, -, tags, -, direction, -, rfl⟩ := h
  rw [Item.Readable, toRelation_eq]
  exact congrArg RelationKind.ofTag (RelationKind.tag_ofTag tag)

namespace ElementTree

/-- An element is readable if its record is, whatever encloses it. -/
theorem readable_item (enclosing : Option Ident) {raw : RawElement}
    (h : ElementKind.ofTag raw.kind.tag = raw.kind) :
    (Declared.element enclosing raw).item.Readable := by
  cases enclosing with
  | none => rwa [Declared.item, Item.Readable, RawElement.toElement_kind]
  | some outer => rwa [Declared.item, Item.Readable, RawElement.toElement_kind]

/-- Where the enclosed elements are read as readable ones, so is the element around them. -/
theorem readable_of_decoderWith {children : Decoder ElementTree}
    (hchildren : ∀ levels json tree, children levels json = some tree → tree.Readable)
    {levels : Nat} {json : Json} {tree : ElementTree}
    (h : decoderWith children levels json = some tree) : tree.Readable := by
  obtain ⟨record, -, h⟩ := Option.bind_eq_some_iff.1 h
  obtain ⟨raw, hraw, h⟩ := Option.bind_eq_some_iff.1 h
  obtain ⟨trees, htrees, h⟩ := Option.bind_eq_some_iff.1 h
  cases h
  intro enclosing declared hdeclared
  -- the element itself comes first, then the elements of the trees that it encloses
  rw [unfold_node, List.mem_cons] at hdeclared
  rcases hdeclared with rfl | hdeclared
  · exact readable_item enclosing (RawElement.ofTag_tag_of_ofRecord? hraw)
  · obtain ⟨tree, htree, hdeclared⟩ := List.mem_flatMap.1 hdeclared
    rcases Record.eq_default_or_exists_of_getD htrees with rfl | ⟨levels, json, hlist⟩
    · exact absurd htree List.not_mem_nil
    · obtain ⟨levels, json, hread⟩ := Decoder.exists_of_mem_list hlist htree
      exact hchildren levels json tree hread _ declared hdeclared

/-- A tree that is read has readable elements, however deep they are nested. -/
theorem readable_of_decoder {levels : Nat} {json : Json} {tree : ElementTree}
    (h : decoder levels json = some tree) : tree.Readable := by
  -- by induction on the number of steps that may read enclosed elements
  have hrepeat : ∀ n levels json tree,
      Nat.repeat decoderWith n (fun _ _ => none) levels json = some tree → tree.Readable := by
    intro n
    induction n with
    -- without a step left nothing is read
    | zero =>
      intro levels json tree h
      cases h
    | succ n ih =>
      intro levels json tree h
      exact readable_of_decoderWith ih h
  exact hrepeat (levels + 1) levels json tree h

end ElementTree

/-- The items of a declaration that is read are readable. -/
theorem Decl.readable_of_decoder {levels : Nat} {json : Json} {decl : Decl}
    (h : Decl.decoder levels json = some decl) :
    ∀ declared ∈ decl.unfold, declared.item.Readable := by
  obtain ⟨tag, decoder, levels, json, hdecoder, hread⟩ := Decoder.exists_of_tagged h
  intro declared hdeclared
  rw [List.mem_cons, List.mem_singleton] at hdecoder
  rcases hdecoder with heq | heq
  · cases heq
    obtain ⟨tree, htree, rfl⟩ := Option.map_eq_some_iff.1 hread
    exact ElementTree.readable_of_decoder htree none declared hdeclared
  · cases heq
    obtain ⟨raw, hraw, rfl⟩ := Option.map_eq_some_iff.1 hread
    obtain rfl := List.mem_singleton.1 hdeclared
    exact RawRelation.readable_of_decoder hraw

/-- The items of a source that is read are readable. -/
theorem Source.readable_of_decoder {levels : Nat} {json : Json} {source : Source}
    (h : Source.decoder levels json = some source) : ∀ item ∈ source.items, item.Readable := by
  obtain ⟨record, -, h⟩ := Option.bind_eq_some_iff.1 h
  obtain ⟨name, -, h⟩ := Option.bind_eq_some_iff.1 h
  obtain ⟨decls, hdecls, h⟩ := Option.bind_eq_some_iff.1 h
  cases h
  intro item hitem
  obtain ⟨declared, hdeclared, rfl⟩ := List.mem_map.1 hitem
  obtain ⟨decl, hdecl, hdeclared⟩ := List.mem_flatMap.1 hdeclared
  rcases Record.eq_default_or_exists_of_getD hdecls with rfl | ⟨levels, json, hlist⟩
  · exact absurd hdecl List.not_mem_nil
  · obtain ⟨levels, json, hread⟩ := Decoder.exists_of_mem_list hlist hdecl
    exact Decl.readable_of_decoder hread declared hdeclared

end Viewpoint
