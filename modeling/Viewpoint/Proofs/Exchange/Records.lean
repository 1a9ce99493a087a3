import Mathlib.Data.List.Nodup
import Viewpoint.Exchange.Reading
import Viewpoint.Exchange.Writing
import Viewpoint.Proofs.Model.Merge

/-!
# Records that are written and read

The record of an item is read as the record that writes this item. Reading looks each field up under
its name, so the order of the fields does not matter, nor does the namespace, which is written but
never read; what is left out is read as its default.

* `exists_record_of_sublist` says how the fields of an object are found under their names.
* `ElementTree.decoder_json` and `Relation.decoder_json` say that the record of an item is read
  back.
-/

namespace Viewpoint

/-- Where every step gives a value, a run of steps gives all of them. -/
theorem mapM_eq_some_map {α β : Type} {step : α → Option β} {f : α → β} {members : List α}
    (h : ∀ a ∈ members, step a = some (f a)) : members.mapM step = some (members.map f) := by
  induction members with
  | nil => rfl
  | cons a rest ih =>
    have hrest : rest.mapM step = some (rest.map f) :=
      ih fun b hb => h b (List.mem_cons_of_mem a hb)
    rw [List.mapM_cons, h a List.mem_cons_self, hrest]
    rfl

/-- Under a name that no entry has nothing is found. -/
theorem lookup_eq_none_of_ne {entries : List (String × Json)} {name : String}
    (h : ∀ entry ∈ entries, entry.1 ≠ name) : entries.lookup name = none := by
  rw [List.lookup_eq_none_iff]
  intro entry hentry
  exact bne_iff_ne.2 (h entry hentry).symm

namespace Decoder

variable {entries : List (String × Json)} {field : Field} {fields : List Field}

/-- Of the keys of an object, which are distinct and no other names of a field, only its name itself
names the field. -/
theorem filter_isNamed (hkeys : (entries.map Prod.fst).Nodup)
    (haliases : ∀ key ∈ entries.map Prod.fst, key ∉ field.aliases) :
    (entries.filter fun entry => field.isNamed entry.1) =
      (entries.lookup field.name).toList.map (field.name, ·) := by
  induction entries with
  | nil => rfl
  | cons entry rest ih =>
    obtain ⟨key, value⟩ := entry
    obtain ⟨hkey, hkeys⟩ := List.nodup_cons.1 hkeys
    have halias : key ∉ field.aliases := haliases key List.mem_cons_self
    have hrest := ih hkeys fun other hother => haliases other (List.mem_cons_of_mem _ hother)
    by_cases hname : field.name = key
    · -- the key does not come again, so the field is found once
      subst hname
      have hlookup : rest.lookup field.name = none :=
        lookup_eq_none_of_ne fun other hother heq => hkey (List.mem_map.2 ⟨other, hother, heq⟩)
      rw [List.filter_cons_of_pos (by simp [Field.isNamed]), hrest, hlookup]
      simp
    · have hnamed : field.isNamed key = false := by
        simp [Field.isNamed, hname, halias]
      rw [List.filter_cons_of_neg (by simp [hnamed]), hrest, List.lookup_cons,
        beq_false_of_ne hname]

/-- A field is found under its name. -/
theorem fieldOf_eq (hkeys : (entries.map Prod.fst).Nodup)
    (haliases : ∀ key ∈ entries.map Prod.fst, key ∉ field.aliases) :
    fieldOf entries field = some ((entries.lookup field.name).toList.map (field.name, ·)) := by
  rw [fieldOf, filter_isNamed hkeys haliases]
  cases entries.lookup field.name <;> rfl

/-- The entries of a field stand under its name. -/
theorem fst_of_mem_fieldEntries {entry : String × Json}
    (h : entry ∈ (entries.lookup field.name).toList.map (field.name, ·)) :
    entry.1 = field.name := by
  obtain ⟨value, -, rfl⟩ := List.mem_map.1 h
  rfl

/-- Among the fields that were found, each one has the value that it has in the object. -/
theorem lookup_flatMap_fields (entries : List (String × Json)) {name : String}
    (hname : name ∈ fields.map Field.name) :
    (fields.flatMap fun field => (entries.lookup field.name).toList.map (field.name, ·)).lookup
      name = entries.lookup name := by
  cases hlookup : entries.lookup name with
  | none =>
    -- what the object does not have is found under no field
    refine lookup_eq_none_of_ne fun entry hentry heq => ?_
    obtain ⟨field, -, hmem⟩ := List.mem_flatMap.1 hentry
    obtain rfl : field.name = name := (fst_of_mem_fieldEntries hmem).symm.trans heq
    rw [hlookup] at hmem
    exact absurd hmem List.not_mem_nil
  | some value =>
    -- by induction on the fields: those before the first one of this name have other names
    induction fields with
    | nil => exact absurd hname List.not_mem_nil
    | cons field rest ih =>
      rw [List.flatMap_cons, List.lookup_append]
      by_cases heq : field.name = name
      · subst heq
        rw [hlookup]
        simp
      · have hhead : ((entries.lookup field.name).toList.map (field.name, ·)).lookup name =
            none :=
          lookup_eq_none_of_ne fun entry hentry =>
            (fst_of_mem_fieldEntries hentry).trans_ne heq
        have hrest : name ∈ rest.map Field.name :=
          (List.mem_cons.1 hname).resolve_left (Ne.symm heq)
        rw [hhead, Option.none_or, ih hrest]

/-- An object whose keys are some of distinct names, none of which is another name of a field, is a
record in which each field has the value that it has in the object. -/
theorem exists_record_of_sublist {names : List String}
    (hsublist : (entries.map Prod.fst).Sublist names) (hnames : names.Nodup)
    (haliases : ∀ field ∈ fields, ∀ name ∈ names, name ∉ field.aliases) (levels : Nat) :
    ∃ record, Decoder.record fields (levels + 1) (.obj entries) = some record ∧
      record.levels = levels ∧ ∀ name ∈ fields.map Field.name,
        record.values.lookup name = entries.lookup name := by
  have hkeys : (entries.map Prod.fst).Nodup := hsublist.nodup hnames
  have hfields : fields.mapM (fieldOf entries) = some (fields.map fun field =>
      (entries.lookup field.name).toList.map (field.name, ·)) := by
    refine mapM_eq_some_map fun field hfield => fieldOf_eq hkeys fun key hkey => ?_
    exact haliases field hfield key (hsublist.subset hkey)
  -- each field gives at most one value, and these are put one after the other
  refine ⟨_, by rw [record, hfields]; rfl, rfl, fun name hname => ?_⟩
  rw [← List.flatMap_def]
  exact lookup_flatMap_fields entries hname

end Decoder

section Entries

variable {α : Type} [Vocabulary α] (key name : String)

theorem lookup_single (value : Json) :
    [(key, value)].lookup name = if name = key then some value else none := by
  by_cases h : name = key
  · subst h
    rw [List.lookup_cons_self, if_pos rfl]
  · rw [List.lookup_cons, beq_false_of_ne h, if_neg h, List.lookup_nil]

/-- An entry that may be left out is found under its key. -/
@[simp]
theorem lookup_entry? (value : Option Json) :
    (Json.entry? key value).lookup name = if name = key then value else none := by
  cases value with
  | none => simp [Json.entry?]
  | some value => exact lookup_single key name value

@[simp]
theorem lookup_textEntry (text : Option String) :
    (textEntry key text).lookup name = if name = key then text.map .str else none :=
  lookup_entry? key name _

@[simp]
theorem lookup_wordEntry (word : Option α) : (wordEntry key word).lookup name =
    if name = key then (word.map Vocabulary.spelling).map .str else none :=
  lookup_textEntry key name _

/-- The entry for texts is found under its key if there are any. -/
@[simp]
theorem lookup_textsEntry (texts : List String) : (textsEntry key texts).lookup name =
    if name = key then (if texts.isEmpty then none else some (Json.strings texts)) else none := by
  by_cases h : texts.isEmpty
  · simp [textsEntry, h]
  · simp [textsEntry, h, lookup_single]

/-- An entry that may be left out has no other key. -/
theorem keys_entry?_sublist (value : Option Json) :
    ((Json.entry? key value).map Prod.fst).Sublist [key] := by
  cases value with
  | none => exact List.nil_sublist _
  | some value => exact .refl _

theorem keys_textEntry_sublist (text : Option String) :
    ((textEntry key text).map Prod.fst).Sublist [key] :=
  keys_entry?_sublist key _

theorem keys_wordEntry_sublist (word : Option α) :
    ((wordEntry key word).map Prod.fst).Sublist [key] :=
  keys_textEntry_sublist key _

theorem keys_textsEntry_sublist (texts : List String) :
    ((textsEntry key texts).map Prod.fst).Sublist [key] := by
  rw [textsEntry]
  split
  · exact List.nil_sublist _
  · exact .refl _

end Entries

namespace Record

variable {record : Record} {name : String} {levels : Nat}

theorem required_of_lookup {α : Type} {value : Json}
    (h : record.values.lookup name = some value) (decoder : Decoder α) :
    record.required name decoder = decoder record.levels value := by
  rw [required, h, Option.bind_some]

/-- A text that may be left out is read back. -/
theorem get?_text {text : Option String} (h : record.values.lookup name = text.map .str) :
    record.get? name Decoder.text = some text := by
  rw [get?, getD, h]
  cases text <;> rfl

/-- A word that may be left out is read back if its spelling is read as the word. -/
theorem get?_word {α : Type} [Vocabulary α] {word : Option α}
    (hword : ∀ w : α, Vocabulary.ofSpelling? (Vocabulary.spelling w) = some w)
    (h : record.values.lookup name = (word.map Vocabulary.spelling).map .str) :
    record.get? name Decoder.word = some word := by
  rw [get?, getD, h]
  cases word with
  | none => rfl
  | some w =>
    show (Vocabulary.ofSpelling? (Vocabulary.spelling w)).map some = some (some w)
    rw [hword, Option.map_some]

/-- A list of texts is read back. -/
theorem textList_strings (levels : Nat) (texts : List String) :
    textList (levels + 1) (Json.strings texts) = some texts := by
  have hread : (texts.map Json.str).mapM (Decoder.text levels) = some (texts.map id) := by
    rw [List.mapM_map]
    exact mapM_eq_some_map fun _ _ => rfl
  rwa [List.map_id] at hread

/-- Texts, which are left out if there are none, are read back. -/
theorem getD_textList (hlevels : record.levels = levels + 1) {texts : List String}
    (h : record.values.lookup name =
      if texts.isEmpty then none else some (Json.strings texts)) :
    record.getD name textList [] = some texts := by
  rw [getD, h, hlevels]
  cases texts with
  | nil => rfl
  | cons text rest => exact textList_strings levels (text :: rest)

end Record

theorem Maturity.ofSpelling?_spelling (maturity : Maturity) :
    Vocabulary.ofSpelling? (Vocabulary.spelling maturity) = some maturity := by
  cases maturity <;> rfl

theorem Direction.ofSpelling?_spelling (direction : Direction) :
    Vocabulary.ofSpelling? (Vocabulary.spelling direction) = some direction := by
  cases direction <;> rfl

namespace Element

/-- The names of the fields of a record, in the order in which they are written. -/
def recordNames : List String :=
  ["id", "kind", "name", "desc", "doc", "tech", "tags", "maturity", "external", "namespace",
    "owner"]

variable {e : Element} {record : Record} {levels : Nat}

/-- The keys of a record are some of these names, in their order. -/
theorem keys_recordEntries_sublist (e : Element) :
    (e.recordEntries.map Prod.fst).Sublist recordNames := by
  simp only [recordEntries, List.map_append]
  exact ((((((((List.Sublist.refl ["id", "kind"]).append
    (keys_textEntry_sublist "name" _)).append (keys_textEntry_sublist "desc" _)).append
    (keys_textEntry_sublist "doc" _)).append (keys_textsEntry_sublist "tech" _)).append
    (keys_textsEntry_sublist "tags" _)).append (keys_wordEntry_sublist "maturity" _)).append
    (.refl ["external", "namespace"])).append (keys_entry?_sublist "owner" _)

/-- The fields of the record of an element are read as the record that writes the element. -/
theorem ofRecord?_eq_raw (hlevels : record.levels = levels + 1)
    (hvalues : ∀ name ∈ RawElement.fields.map Field.name,
      record.values.lookup name = e.recordEntries.lookup name)
    (hkind : ElementKind.ofTag e.kind.tag = e.kind) :
    RawElement.ofRecord? record = some e.raw := by
  have hfield : ∀ {name : String} {value : Option Json}, name ∈ RawElement.fields.map Field.name →
      e.recordEntries.lookup name = value → record.values.lookup name = value :=
    fun hname hvalue => (hvalues _ hname).trans hvalue
  -- what stands in each field of the record
  have hid : record.values.lookup "id" = some e.id.json :=
    hfield (by decide) (by simp [recordEntries])
  have htag : record.values.lookup "kind" = some (.str e.kind.tag) :=
    hfield (by decide) (by simp [recordEntries, List.lookup_cons])
  have hname : record.values.lookup "name" = e.name.map .str :=
    hfield (by decide) (by simp [recordEntries, List.lookup_append, List.lookup_cons])
  have hdesc : record.values.lookup "desc" = e.desc.map .str :=
    hfield (by decide) (by simp [recordEntries, List.lookup_append, List.lookup_cons])
  have hdoc : record.values.lookup "doc" = e.doc.map .str :=
    hfield (by decide) (by simp [recordEntries, List.lookup_append, List.lookup_cons])
  have htech : record.values.lookup "tech" =
      if e.tech.isEmpty then none else some (Json.strings e.tech) :=
    hfield (by decide) (by simp [recordEntries, List.lookup_append, List.lookup_cons])
  have htags : record.values.lookup "tags" =
      if e.tags.toList.isEmpty then none else some (Json.strings e.tags.toList) :=
    hfield (by decide) (by simp [recordEntries, List.lookup_append, List.lookup_cons])
  have hmaturity : record.values.lookup "maturity" =
      (e.maturity.map Vocabulary.spelling).map .str :=
    hfield (by decide) (by simp [recordEntries, List.lookup_append, List.lookup_cons])
  have hexternal : record.values.lookup "external" = some (.bool e.external) :=
    hfield (by decide) (by simp [recordEntries, List.lookup_append, List.lookup_cons])
  have howner : record.values.lookup "owner" = (e.owner.map Ident.text).map .str := by
    have hwritten : e.recordEntries.lookup "owner" = e.owner.map Ident.json := by
      simp [recordEntries, List.lookup_append, List.lookup_cons]
    rw [hfield (by decide) hwritten, Option.map_map]
    rfl
  -- what is read from the fields that have to be there
  have hkindRead : record.required "kind" (Decoder.text.map ElementKind.ofTag) =
      some e.kind := by
    rw [Record.required_of_lookup htag, ← hkind]
    simp [Decoder.map, Decoder.text]
  have hidRead : record.required "id" Decoder.text = some e.id.text :=
    Record.required_of_lookup hid _
  have hexternalRead : record.getD "external" Decoder.flag false = some e.external := by
    rw [Record.getD, hexternal]
    rfl
  rw [RawElement.ofRecord?, hidRead, hkindRead, Record.get?_text hname, Record.get?_text hdesc,
    Record.get?_text hdoc, Record.getD_textList hlevels htech,
    Record.getD_textList hlevels htags, Record.get?_word Maturity.ofSpelling?_spelling hmaturity,
    hexternalRead, Record.get?_text howner]
  rfl

end Element

/-- The record of an element is read as the record that writes it, with nothing enclosed. -/
theorem ElementTree.decoder_json {e : Element} (hkind : ElementKind.ofTag e.kind.tag = e.kind)
    (levels : Nat) : ElementTree.decoder (levels + 2) e.json = some (.node e.raw []) := by
  obtain ⟨record, hrecord, hlevels, hvalues⟩ :=
    Decoder.exists_record_of_sublist (Element.keys_recordEntries_sublist e) (by decide)
      (by decide :
        ∀ field ∈ RawElement.fields, ∀ name ∈ Element.recordNames, name ∉ field.aliases)
      (levels + 1)
  have hread : RawElement.ofRecord? record = some e.raw :=
    Element.ofRecord?_eq_raw hlevels hvalues hkind
  -- enclosed elements are never written, so the decoder for them is not asked
  have hchildren : record.values.lookup "children" = none := by
    rw [hvalues _ (by decide)]
    simp [Element.recordEntries, List.lookup_append, List.lookup_cons]
  rw [ElementTree.decoder, Decoder.nested_eq, ElementTree.decoderWith, Element.json, hrecord]
  simp only [Option.bind_eq_bind, Option.bind_some, hread, Record.getD, hchildren]
  rfl

namespace Relation

/-- The names of the fields of a record, in the order in which they are written. -/
def recordNames : List String :=
  ["id", "kind", "from", "to", "name", "desc", "tech", "tags", "direction", "namespace"]

variable {r : Relation} {record : Record} {levels : Nat}

/-- The keys of a record are some of these names, in their order. -/
theorem keys_recordEntries_sublist (r : Relation) :
    (r.recordEntries.map Prod.fst).Sublist recordNames := by
  simp only [recordEntries, List.map_append]
  exact ((((((List.Sublist.refl ["id", "kind", "from", "to"]).append
    (keys_textEntry_sublist "name" _)).append (keys_textEntry_sublist "desc" _)).append
    (keys_textsEntry_sublist "tech" _)).append (keys_textsEntry_sublist "tags" _)).append
    (keys_wordEntry_sublist "direction" _)).append (.refl ["namespace"])

/-- The fields of the record of a relation are read as the record that writes the relation. -/
theorem ofRecord?_eq_raw (hlevels : record.levels = levels + 1)
    (hvalues : ∀ name ∈ RawRelation.fields.map Field.name,
      record.values.lookup name = r.recordEntries.lookup name)
    (hkind : RelationKind.ofTag r.kind.tag = r.kind) :
    RawRelation.ofRecord? record = some r.raw := by
  have hfield : ∀ {name : String} {value : Option Json}, name ∈ RawRelation.fields.map Field.name →
      r.recordEntries.lookup name = value → record.values.lookup name = value :=
    fun hname hvalue => (hvalues _ hname).trans hvalue
  -- what stands in each field of the record
  have hid : record.values.lookup "id" = some r.id.json :=
    hfield (by decide) (by simp [recordEntries])
  have htag : record.values.lookup "kind" = some (.str r.kind.tag) :=
    hfield (by decide) (by simp [recordEntries, List.lookup_cons])
  have hsource : record.values.lookup "from" = some r.source.json :=
    hfield (by decide) (by simp [recordEntries, List.lookup_cons])
  have htarget : record.values.lookup "to" = some r.target.json :=
    hfield (by decide) (by simp [recordEntries, List.lookup_cons])
  have hname : record.values.lookup "name" = r.name.map .str :=
    hfield (by decide) (by simp [recordEntries, List.lookup_append, List.lookup_cons])
  have hdesc : record.values.lookup "desc" = r.desc.map .str :=
    hfield (by decide) (by simp [recordEntries, List.lookup_append, List.lookup_cons])
  have htech : record.values.lookup "tech" =
      if r.tech.isEmpty then none else some (Json.strings r.tech) :=
    hfield (by decide) (by simp [recordEntries, List.lookup_append, List.lookup_cons])
  have htags : record.values.lookup "tags" =
      if r.tags.toList.isEmpty then none else some (Json.strings r.tags.toList) :=
    hfield (by decide) (by simp [recordEntries, List.lookup_append, List.lookup_cons])
  have hdirection : record.values.lookup "direction" =
      (r.direction.map Vocabulary.spelling).map .str :=
    hfield (by decide) (by simp [recordEntries, List.lookup_append, List.lookup_cons])
  -- what is read from the fields that have to be there
  have hkindRead : record.required "kind" (Decoder.text.map RelationKind.ofTag) =
      some r.kind := by
    rw [Record.required_of_lookup htag, ← hkind]
    simp [Decoder.map, Decoder.text]
  have hidRead : record.required "id" Decoder.text = some r.id.text :=
    Record.required_of_lookup hid _
  have hsourceRead : record.required "from" Decoder.text = some r.source.text :=
    Record.required_of_lookup hsource _
  have htargetRead : record.required "to" Decoder.text = some r.target.text :=
    Record.required_of_lookup htarget _
  rw [RawRelation.ofRecord?, hidRead, hkindRead, hsourceRead, htargetRead, Record.get?_text hname,
    Record.get?_text hdesc, Record.getD_textList hlevels htech,
    Record.getD_textList hlevels htags, Record.get?_word Direction.ofSpelling?_spelling hdirection]
  rfl

/-- The record of a relation is read as the record that writes it. -/
theorem decoder_json (hkind : RelationKind.ofTag r.kind.tag = r.kind) (levels : Nat) :
    RawRelation.decoder (levels + 2) r.json = some r.raw := by
  obtain ⟨record, hrecord, hlevels, hvalues⟩ :=
    Decoder.exists_record_of_sublist (keys_recordEntries_sublist r) (by decide)
      (by decide : ∀ field ∈ RawRelation.fields, ∀ name ∈ recordNames, name ∉ field.aliases)
      (levels + 1)
  rw [RawRelation.decoder, json, hrecord, Option.bind_some, ofRecord?_eq_raw hlevels hvalues hkind]

end Relation

end Viewpoint
