import Viewpoint.Exchange.Reading
import Viewpoint.Proofs.Model.Names

/-!
# The texts of kinds

A kind is read from a text and written as a text. Some texts name modeled kinds and all others stand
for themselves, so reading must not lose the spelling of any of them, and the tables by which kinds
are read and written must have the same words. If they do, the declared kinds may be told from what
sources write, without reading any kind.

* `elementTable`, `relationTable` and `viewTable` list the texts of the modeled kinds.
* `KeepsSpelling` says that kinds are read and written by such a table and keep their spelling, and
  `ElementKind.keepsSpelling`, `RelationKind.keepsSpelling` and `ViewKind.keepsSpelling` say that
  they all do.
* `Source.kindTexts` reads the texts of the kinds of a source and leaves them as they are, and
  `kindTexts_of_decoder` says that they are the tags of the items that the source declares.
-/

namespace Viewpoint

/-! ### Tables -/

/-- The texts of the modeled kinds of elements. -/
def elementTable : List (String × ElementTag) :=
  [("person", .person), ("system", .system), ("container", .container),
    ("component", .component), ("node", .node), ("actor", .actor), ("use-case", .useCase),
    ("class", .classifier), ("interface", .interface), ("protocol", .protocol),
    ("enum", .enumeration), ("state", .state), ("transition", .transition),
    ("concept", .concept), ("org-unit", .orgUnit), ("capability", .capability),
    ("process", .process)]

/-- The texts of the modeled kinds of relations. -/
def relationTable : List (String × RelationTag) :=
  [("request", .request), ("response", .response), ("send", .send), ("publish", .publish),
    ("subscribe", .subscribe), ("dataflow", .dataflow), ("rel", .rel),
    ("contained-in", .containedIn), ("implements", .implements), ("uses", .uses),
    ("include", .inclusion), ("extends", .extension), ("association", .association),
    ("aggregation", .aggregation), ("composition", .composition),
    ("inheritance", .inheritance), ("implementation", .implementation),
    ("dependency", .dependency), ("link", .link), ("deployed-to", .deployedTo), ("is-a", .isA),
    ("has", .has)]

/-- The texts of the modeled kinds of views. -/
def viewTable : List (String × ViewTag) :=
  [("context", .context), ("landscape", .landscape), ("container", .container),
    ("component", .component), ("dynamic", .dynamic), ("deployment", .deployment),
    ("custom", .custom), ("filtered", .filtered)]

/-- Kinds are read and written by one table: a text in the table is that of a modeled kind, and any
other text stands for itself. -/
structure KeepsSpelling {ω κ : Type} (table : List (String × ω)) (modeled : ω → κ)
    (custom : String → κ) (ofTag : String → κ) (tag : κ → String) : Prop where
  /-- What is read from a text is written as this text. -/
  tag_ofTag : ∀ text, tag (ofTag text) = text
  /-- Texts that are read as the same kind are the same. -/
  injective : ∀ text text', ofTag text = ofTag text' → text = text'
  /-- A text is read as a modeled kind exactly when the table has it for this kind. -/
  modeled_iff : ∀ text word, ofTag text = modeled word ↔ (text, word) ∈ table
  /-- It is read as a custom kind exactly when it is not in the table. -/
  custom_iff : ∀ text, (∃ other, ofTag text = custom other) ↔ text ∉ table.map Prod.fst
  /-- Modeled kinds are written by the table. -/
  tag_modeled : ∀ word, (tag (modeled word), word) ∈ table
  /-- Custom kinds are written as they are spelled. -/
  tag_custom : ∀ text, tag (custom text) = text

section Tables

variable {ω κ : Type} [Vocabulary ω] {table : List (String × ω)} {modeled : ω → κ}
  {custom : String → κ} {ofTag : String → κ} {tag : κ → String} {text : String} {word : ω}

/-- A text is read as a word exactly when the table of the vocabulary has it for this word. -/
theorem ofSpelling?_eq_some_iff
    (htable : (Vocabulary.words : List ω).map (fun word => (Vocabulary.spelling word, word)) =
      table)
    (hdistinct : (table.map Prod.fst).Nodup) :
    Vocabulary.ofSpelling? text = some word ↔ (text, word) ∈ table := by
  subst htable
  rw [List.map_map] at hdistinct
  have hfound : Vocabulary.ofSpelling? text = some word ↔
      word ∈ (Vocabulary.words : List ω) ∧ Vocabulary.spelling word = text :=
    find?_eq_some_iff_of_nodup hdistinct
  rw [hfound, List.mem_map]
  constructor
  · rintro ⟨hword, rfl⟩
    exact ⟨word, hword, rfl⟩
  · rintro ⟨word', hword, heq⟩
    cases heq
    exact ⟨hword, rfl⟩

/-- Kinds keep their spelling when they are read and written by the table of a vocabulary that has
all words, no two of them with the same spelling. -/
theorem KeepsSpelling.of_table
    (htable : (Vocabulary.words : List ω).map (fun word => (Vocabulary.spelling word, word)) =
      table)
    (hdistinct : (table.map Prod.fst).Nodup)
    (hwords : ∀ word, (Vocabulary.spelling word, word) ∈ table)
    (hread : ∀ {text word}, Vocabulary.ofSpelling? text = some word → ofTag text = modeled word)
    (hother : ∀ {text}, (Vocabulary.ofSpelling? text : Option ω) = none →
      ofTag text = custom text)
    (hmodeled : ∀ word, tag (modeled word) = Vocabulary.spelling word)
    (hcustom : ∀ text, tag (custom text) = text) (hinjective : Function.Injective modeled)
    (hne : ∀ word text, modeled word ≠ custom text) :
    KeepsSpelling table modeled custom ofTag tag := by
  have htag : ∀ text, tag (ofTag text) = text := by
    intro text
    cases hword : (Vocabulary.ofSpelling? text : Option ω) with
    | some word => rw [hread hword, hmodeled, Vocabulary.spelling_of_ofSpelling? hword]
    | none => rw [hother hword, hcustom]
  refine ⟨htag, fun text text' heq => ?_, fun text word => ?_, fun text => ?_, fun word => ?_,
    hcustom⟩
  · rw [← htag text, heq, htag]
  · rw [← ofSpelling?_eq_some_iff htable hdistinct]
    cases hword : (Vocabulary.ofSpelling? text : Option ω) with
    | some word' => rw [hread hword, hinjective.eq_iff, Option.some.injEq]
    | none =>
      rw [hother hword]
      exact iff_of_false (hne word text).symm (by simp)
  · have hspelling : table.map Prod.fst = (Vocabulary.words : List ω).map Vocabulary.spelling := by
      rw [← htable, List.map_map]
      rfl
    rw [hspelling, ← Vocabulary.ofSpelling?_eq_none_iff]
    cases hword : (Vocabulary.ofSpelling? text : Option ω) with
    | some word =>
      rw [hread hword]
      exact iff_of_false (fun ⟨other, h⟩ => hne word other h) (by simp)
    | none => exact iff_of_true ⟨text, hother hword⟩ rfl
  · rw [hmodeled]
    exact hwords word

end Tables

/-- The kinds of elements keep their spelling. -/
theorem ElementKind.keepsSpelling : KeepsSpelling elementTable modeled custom ofTag tag :=
  .of_table rfl (by decide) (fun word => by cases word <;> decide) (fun h => by rw [ofTag, h])
    (fun h => by rw [ofTag, h]) (fun _ => rfl) (fun _ => rfl) (fun _ _ h => modeled.inj h)
    (fun _ _ h => nomatch h)

/-- The kinds of relations keep their spelling. -/
theorem RelationKind.keepsSpelling : KeepsSpelling relationTable modeled custom ofTag tag :=
  .of_table rfl (by decide) (fun word => by cases word <;> decide) (fun h => by rw [ofTag, h])
    (fun h => by rw [ofTag, h]) (fun _ => rfl) (fun _ => rfl) (fun _ _ h => modeled.inj h)
    (fun _ _ h => nomatch h)

/-- The kinds of views keep their spelling. -/
theorem ViewKind.keepsSpelling : KeepsSpelling viewTable modeled other ofTag tag :=
  .of_table rfl (by decide) (fun word => by cases word <;> decide)
    (fun h => by rw [ofTag_eq, h]) (fun h => by rw [ofTag_eq, h]) (fun _ => rfl) (fun _ => rfl)
    (fun _ _ h => modeled.inj h) (fun _ _ h => nomatch h)

/-- An element is of a custom kind exactly when its kind is read from a text that is not in the
table. -/
theorem ElementKind.isCustom_ofTag {text : String} :
    (ofTag text).isCustom = true ↔ text ∉ elementTable.map Prod.fst := by
  rw [← keepsSpelling.custom_iff]
  cases ofTag text with
  | modeled word => simp [isCustom]
  | custom other => simp [isCustom]

/-! ### Texts in sources -/

/-- The name of an item with the text of its kind. -/
structure KindText where
  /-- The name of the item. -/
  id : Ident
  /-- The text of its kind. -/
  text : String
  deriving DecidableEq

/-- The name of an item and the tag of its kind. -/
def Item.kindText (item : Item) : KindText :=
  ⟨item.id, item.kindTag⟩

/-- The name and the text of a kind that a record gives. -/
def Record.kindText? (record : Record) : Option KindText := do
  let id ← record.required "id" Ident.decoder
  let text ← record.required "kind" Decoder.text
  pure ⟨id, text⟩

/-- The texts of the kinds of an element and of those that it encloses, which are read by a given
decoder. -/
def ElementTree.kindTextsWith (enclosed : Decoder (List KindText)) : Decoder (List KindText) :=
  fun levels json => do
    let record ← Decoder.record RawElement.fields levels json
    let own ← record.kindText?
    let texts ← record.getD "children" enclosed.list []
    pure (own :: texts.flatten)

/-- The text of the kind of a relation. -/
def RawRelation.kindTexts : Decoder (List KindText) :=
  fun levels json => do
    let record ← Decoder.record fields levels json
    let own ← record.kindText?
    pure [own]

/-- The texts of the kinds of a declaration. -/
def Decl.kindTexts : Decoder (List KindText) :=
  Decoder.tagged
    [("element", Decoder.nested ElementTree.kindTextsWith), ("relation", RawRelation.kindTexts)]

/-- The texts of the kinds of a source, in the order in which they are written. -/
def Source.kindTexts : Decoder (List KindText) :=
  fun levels json => do
    let record ← Decoder.record [⟨"name", []⟩, ⟨"decls", []⟩] levels json
    let texts ← record.getD "decls" Decl.kindTexts.list []
    pure texts.flatten

/-- The texts of the kinds of sources. -/
def kindTexts : Decoder (List KindText) :=
  Source.kindTexts.list.map List.flatten

/-- Whatever one decoder reads, another one reads what is made of it. -/
def Decoder.Follows {α β : Type} (other : Decoder β) (decoder : Decoder α) (f : α → β) : Prop :=
  ∀ {levels json a}, decoder levels json = some a → other levels json = some (f a)

section Follows

variable {α β : Type} {decoder : Decoder α} {other : Decoder β} {f : α → β}

/-- A run of steps of the other decoder follows a run of steps. -/
theorem mapM_of_steps {γ : Type} {step : γ → Option α} {step' : γ → Option β}
    (h : ∀ {c a}, step c = some a → step' c = some (f a)) {members : List γ} {values : List α}
    (hvalues : members.mapM step = some values) : members.mapM step' = some (values.map f) := by
  induction members generalizing values with
  | nil =>
    cases hvalues
    rfl
  | cons c rest ih =>
    rw [List.mapM_cons] at hvalues
    obtain ⟨first, hfirst, hvalues⟩ := Option.bind_eq_some_iff.1 hvalues
    obtain ⟨others, hothers, hvalues⟩ := Option.bind_eq_some_iff.1 hvalues
    cases hvalues
    rw [List.mapM_cons, h hfirst, ih hothers]
    rfl

/-- Lists are followed member by member. -/
theorem Decoder.Follows.list (h : other.Follows decoder f) :
    other.list.Follows decoder.list (List.map f) := by
  intro levels json values hvalues
  cases levels with
  | zero => cases hvalues
  | succ levels =>
    cases json with
    | arr items => exact mapM_of_steps h hvalues
    | _ => cases hvalues

/-- A field with a default is followed if the defaults go together. -/
theorem Record.getD_of_follows (h : other.Follows decoder f) {record : Record} {name : String}
    {default value : α} (hvalue : record.getD name decoder default = some value) :
    record.getD name other (f default) = some (f value) := by
  rw [getD] at hvalue ⊢
  cases hlookup : record.values.lookup name with
  | none =>
    rw [hlookup] at hvalue
    cases hvalue
    rfl
  | some json =>
    rw [hlookup] at hvalue
    exact h hvalue

/-- A field that is made from what is read is read before it is made. -/
theorem Record.required_map {γ : Type} (record : Record) (name : String) (decoder : Decoder α)
    (f : α → γ) :
    record.required name (decoder.map f) = (record.required name decoder).map f := by
  rw [required, required]
  cases record.values.lookup name <;> rfl

end Follows

/-- The name and the text of a kind are given by the fields that hold them. -/
theorem Record.kindText?_eq {κ : Type} {record : Record} {ofTag : String → κ} {id : String}
    {kind : κ} {tag : κ → String} (htag : ∀ text, tag (ofTag text) = text)
    (hid : record.required "id" Decoder.text = some id)
    (hkind : record.required "kind" (Decoder.text.map ofTag) = some kind) :
    record.kindText? = some ⟨⟨id⟩, tag kind⟩ := by
  rw [Record.required_map] at hkind
  obtain ⟨text, htext, rfl⟩ := Option.map_eq_some_iff.1 hkind
  rw [kindText?, Ident.decoder, Record.required_map, hid, htext, htag]
  rfl

/-- The record that writes an element gives its name and the tag of its kind. -/
theorem RawElement.kindText?_of_ofRecord? {record : Record} {raw : RawElement}
    (h : ofRecord? record = some raw) : record.kindText? = some ⟨⟨raw.id⟩, raw.kind.tag⟩ := by
  obtain ⟨id, hid, h⟩ := Option.bind_eq_some_iff.1 h
  obtain ⟨kind, hkind, h⟩ := Option.bind_eq_some_iff.1 h
  simp only [Option.bind_eq_bind, Option.bind_eq_some_iff, Option.pure_def,
    Option.some.injEq] at h
  obtain ⟨name, -, desc, -, doc, -, tech, -, tags, -, maturity, -, external, -, owner, -, rfl⟩ := h
  exact Record.kindText?_eq ElementKind.tag_ofTag hid hkind

/-- The record that writes a relation gives its name and the tag of its kind. -/
theorem RawRelation.kindText?_of_ofRecord? {record : Record} {raw : RawRelation}
    (h : ofRecord? record = some raw) : record.kindText? = some ⟨⟨raw.id⟩, raw.kind.tag⟩ := by
  obtain ⟨id, hid, h⟩ := Option.bind_eq_some_iff.1 h
  obtain ⟨kind, hkind, h⟩ := Option.bind_eq_some_iff.1 h
  simp only [Option.bind_eq_bind, Option.bind_eq_some_iff, Option.pure_def,
    Option.some.injEq] at h
  obtain ⟨source, -, target, -, name, -, desc, -, tech, -, tags, -, direction, -, rfl⟩ := h
  exact Record.kindText?_eq RelationKind.tag_ofTag hid hkind

namespace ElementTree

/-- The names and the tags of the kinds of an element and of all that it encloses. -/
def kinds (tree : ElementTree) : List KindText :=
  (tree.unfold none).map fun declared => declared.item.kindText

/-- An element keeps its name and its kind, whatever encloses it. -/
theorem kindText_item (enclosing : Option Ident) (raw : RawElement) :
    (Declared.element enclosing raw).item.kindText = ⟨⟨raw.id⟩, raw.kind.tag⟩ := by
  cases enclosing <;> simp [Declared.item, Item.kindText, Item.id, Item.kindTag]

/-- What encloses a tree gives other owners only. -/
theorem kinds_eq (tree : ElementTree) (enclosing : Option Ident) :
    (tree.unfold enclosing).map (fun declared => declared.item.kindText) = tree.kinds := by
  obtain ⟨raw, children⟩ := tree
  rw [kinds, unfold_node, unfold_node, List.map_cons, List.map_cons, kindText_item, kindText_item]

/-- An element comes before those that it encloses. -/
theorem kinds_node (raw : RawElement) (children : List ElementTree) :
    (node raw children).kinds = ⟨⟨raw.id⟩, raw.kind.tag⟩ :: (children.map kinds).flatten := by
  rw [kinds, unfold_node, List.map_cons, List.map_flatMap, kindText_item, ← List.flatMap_def]
  congr 1
  exact congrArg children.flatMap (funext fun child => child.kinds_eq (some ⟨raw.id⟩))

/-- Where the texts of the enclosed elements are read, so are those of the element around them. -/
theorem kindTextsWith_follows {children : Decoder ElementTree}
    {enclosed : Decoder (List KindText)} (h : enclosed.Follows children kinds) :
    (kindTextsWith enclosed).Follows (decoderWith children) kinds := by
  intro levels json tree htree
  obtain ⟨record, hrecord, htree⟩ := Option.bind_eq_some_iff.1 htree
  obtain ⟨raw, hraw, htree⟩ := Option.bind_eq_some_iff.1 htree
  obtain ⟨trees, htrees, htree⟩ := Option.bind_eq_some_iff.1 htree
  cases htree
  have htexts : record.getD "children" enclosed.list [] = some (trees.map kinds) :=
    Record.getD_of_follows h.list htrees
  rw [kindTextsWith, hrecord]
  simp only [Option.bind_eq_bind, Option.bind_some, RawElement.kindText?_of_ofRecord? hraw, htexts,
    kinds_node]
  rfl

/-- However deep elements are nested, the texts of their kinds are read. -/
theorem kindTexts_follows : (Decoder.nested kindTextsWith).Follows decoder kinds := by
  -- by induction on the number of steps that may read enclosed elements
  have hrepeat : ∀ n, Decoder.Follows (Nat.repeat kindTextsWith n fun _ _ => none)
      (Nat.repeat decoderWith n fun _ _ => none) kinds := by
    intro n
    induction n with
    -- without a step left nothing is read
    | zero =>
      intro levels json tree htree
      cases htree
    | succ n ih => exact kindTextsWith_follows ih
  intro levels json tree htree
  exact hrepeat (levels + 1) htree

end ElementTree

/-- The text of the kind of a relation is read. -/
theorem RawRelation.kindTexts_follows :
    kindTexts.Follows decoder fun raw => [(Item.relation raw.toRelation).kindText] := by
  intro levels json raw hraw
  obtain ⟨record, hrecord, hraw⟩ := Option.bind_eq_some_iff.1 hraw
  rw [kindTexts, hrecord]
  simp only [Option.bind_eq_bind, Option.bind_some, kindText?_of_ofRecord? hraw, Option.pure_def]
  rw [toRelation_eq]
  rfl

/-- The names and the tags of the kinds of what a declaration declares. -/
def Decl.kinds (decl : Decl) : List KindText :=
  decl.items.map Item.kindText

/-- What an element declares is the element and all that it encloses. -/
theorem Decl.kinds_element (tree : ElementTree) : (element tree).kinds = tree.kinds :=
  List.map_map

/-- The texts of the kinds of a declaration are read. -/
theorem Decl.kindTexts_follows : kindTexts.Follows decoder kinds := by
  intro levels json decl hdecl
  rw [decoder] at hdecl
  unfold Decoder.tagged at hdecl
  split at hdecl
  · next levels tag json =>
    obtain ⟨read, hread, hdecl⟩ := Option.bind_eq_some_iff.1 hdecl
    rw [List.lookup_cons, List.lookup_cons, List.lookup_nil] at hread
    rw [kindTexts, Decoder.tagged, List.lookup_cons, List.lookup_cons, List.lookup_nil]
    -- the two choices have the same names
    split at hread
    · cases hread
      obtain ⟨tree, htree, rfl⟩ := Option.map_eq_some_iff.1 hdecl
      rw [kinds_element]
      exact ElementTree.kindTexts_follows htree
    · split at hread
      · cases hread
        obtain ⟨raw, hraw, rfl⟩ := Option.map_eq_some_iff.1 hdecl
        exact RawRelation.kindTexts_follows hraw
      · cases hread
  · cases hdecl

/-- The texts of the kinds of a source are read. -/
theorem Source.kindTexts_follows :
    kindTexts.Follows decoder fun source => source.items.map Item.kindText := by
  intro levels json source hsource
  obtain ⟨record, hrecord, hsource⟩ := Option.bind_eq_some_iff.1 hsource
  obtain ⟨name, -, hsource⟩ := Option.bind_eq_some_iff.1 hsource
  obtain ⟨decls, hdecls, hsource⟩ := Option.bind_eq_some_iff.1 hsource
  cases hsource
  have htexts : record.getD "decls" Decl.kindTexts.list [] = some (decls.map Decl.kinds) :=
    Record.getD_of_follows Decl.kindTexts_follows.list hdecls
  have hitems : (decls.map Decl.kinds).flatten =
      (Source.items ⟨name, decls⟩).map Item.kindText := by
    rw [items_eq_flatMap, List.map_flatMap, List.flatMap_def]
    rfl
  rw [kindTexts, hrecord]
  simp only [Option.bind_eq_bind, Option.bind_some, htexts, hitems, Option.pure_def]

/-- The texts of the kinds of sources are the tags of the items that they declare. -/
theorem kindTexts_of_decoder {levels : Nat} {json : Json} {sources : List Source}
    (h : Source.decoder.list levels json = some sources) :
    kindTexts levels json = some ((declaredItems sources).map Item.kindText) := by
  rw [kindTexts, Decoder.map, Source.kindTexts_follows.list h, Option.map_some, declaredItems,
    List.map_flatMap, List.flatMap_def]

end Viewpoint
