import Viewpoint.Exchange.Writing
import Viewpoint.Pattern
import Viewpoint.Proofs.Criteria.Converse
import Viewpoint.Proofs.Exchange.KindTexts
import Viewpoint.Proofs.Exchange.Readable
import Viewpoint.Proofs.View.Copies
import Viewpoint.Proofs.View.SameAnswers

/-!
# Kinds from declaration to view

Criteria compare the text of a kind, and a custom view asks whether a kind is a modeled one. Both
can be told from the texts that the sources write: the key `el` selects what is declared with its
text, and a custom view is refused for the first of its elements that is declared with the text of a
modeled kind.

* `DeclaredModeled` says that a name is declared with such a text, and `isCustom_eq_false_iff` that
  the elements of a model tell this by their kinds.
* `ViewSet.Gathers` says which entries a view is made of, before they are checked.
* `KeepsKinds` says that a model is selected from and shown by the declared texts, and
  `keepsKinds_of_build` that every model is so that is built from sources that are read.
-/

namespace Viewpoint

/-- A name is declared with the text of a modeled kind of elements. -/
def DeclaredModeled (kinds : List KindText) (id : Ident) : Prop :=
  ∃ text ∈ elementTable.map Prod.fst, ⟨id, text⟩ ∈ kinds

/-- Among entries, the first element that is declared with the text of a modeled kind has this
name. -/
def FirstDeclaredModeled (kinds : List KindText) (entries : List Entry) (element : Ident) : Prop :=
  ∃ before entry after e, entries = before ++ entry :: after ∧ entry.item = .element e ∧
    DeclaredModeled kinds e.id ∧ e.id = element ∧
    ∀ other ∈ before, ∀ e', other.item = .element e' → ¬ DeclaredModeled kinds e'.id

/-- The entries that a view is made of: its own, or those of its base that pass its filter. -/
inductive ViewSet.Gathers (set : ViewSet) (model : Model) (settings : Settings) (view : View) :
    List Entry → Prop
  | own (h : view.body.base? = none) :
      Gathers set model settings view (model.ownEntries settings.selection view).value.1
  | filtered {base : Ident} {filter : TagFilter} {content : Content}
      (hbody : view.body = .filtered base filter)
      (hbase : (set.compose model settings base).value = .ok content) :
      Gathers set model settings view
        (filter.narrow settings.compose.pruneDanglingRelations content.entries)

/-- What is selected from a model and shown of it goes by the texts of the declared kinds. -/
structure KeepsKinds [PatternEngine] (kinds : List KindText) (model : Model) : Prop where
  /-- The key `el` with any text is read, and it selects the items that are declared with it. -/
  selects : ∀ levels text, ∃ criteria,
    (CriteriaDecl.decoder (levels + 1) (.obj [("el", .str text)])).map CriteriaDecl.criteria =
        some (.ok criteria) ∧
      (∀ item ∈ model.items, model.satisfies criteria item = true ↔ ⟨item.id, text⟩ ∈ kinds) ∧
      ∀ settings id, id ∈ (model.matching settings criteria).value.toList ↔
        ⟨id, text⟩ ∈ kinds ∧ ∃ item ∈ model.items, item.id = id
  /-- An item is written with the text that it is declared with. -/
  writes : ∀ item ∈ model.items, ∀ text,
    item.recordEntries.lookup "kind" = some (.str text) ↔ ⟨item.id, text⟩ ∈ kinds
  /-- A custom view is refused for the first of its elements that is declared with the text of a
  modeled kind. -/
  refuses_iff : ∀ (set : ViewSet) settings id view entries, set.find? id = some view →
    view.kind = .ofTag "custom" → set.Gathers model settings view entries →
      ∀ element, (set.compose model settings id).value =
          .error (.invalid id (.nonCustomElement element)) ↔
        FirstDeclaredModeled kinds entries element
  /-- If there is none, it shows all its entries, as a custom view. -/
  shows_iff : ∀ (set : ViewSet) settings id view entries, set.find? id = some view →
    view.kind = .ofTag "custom" → set.Gathers model settings view entries →
      ((∃ content, (set.compose model settings id).value = .ok content ∧
          content.entries = entries ∧
          content.recordEntries.lookup "kind" = some (.str "custom")) ↔
        ∀ entry ∈ entries, ∀ e, entry.item = .element e → ¬ DeclaredModeled kinds e.id)

/-! ### Kinds in models -/

section Models

variable {items : List Item} {item : Item} {text : String} {e : Element}

/-- An item of an assembled model is declared, up to its owner. -/
theorem exists_declared_of_mem_items_assemble (h : item ∈ (Model.assemble items).items) :
    ∃ declared ∈ items, declared.kindText = item.kindText ∧
      (declared.Readable → item.Readable) := by
  rcases Model.mem_items_iff.1 h with ⟨e, he, rfl⟩ | ⟨r, hr, rfl⟩
  · obtain ⟨written, hwritten, rfl⟩ := List.mem_map.1 he
    exact ⟨.element written, mem_filterMap_element?.1 hwritten, rfl, id⟩
  · exact ⟨.relation r, mem_filterMap_relation?.1 (List.mem_of_mem_filter hr), rfl, id⟩

/-- Among distinct names, an item is declared with the tag of its kind and with no other text. -/
theorem mem_kindTexts_iff (hnodup : (items.map Item.id).Nodup)
    (h : item ∈ (Model.assemble items).items) :
    ⟨item.id, text⟩ ∈ items.map Item.kindText ↔ item.kindTag = text := by
  obtain ⟨declared, hdeclared, hsame, -⟩ := exists_declared_of_mem_items_assemble h
  have hown : item.kindText ∈ items.map Item.kindText :=
    List.mem_map.2 ⟨declared, hdeclared, hsame⟩
  constructor
  · intro hmem
    -- two texts of one name are the same text
    have hnames : ((items.map Item.kindText).map KindText.id).Nodup := by
      rw [List.map_map]
      exact hnodup
    exact congrArg KindText.text (List.inj_on_of_nodup_map hnames hown hmem rfl)
  · rintro rfl
    exact hown

/-- An element of a model that is made of what is read is of a modeled kind exactly when it is
declared with the text of one. -/
theorem isCustom_eq_false_iff (hnodup : (items.map Item.id).Nodup)
    (hreadable : ∀ declared ∈ items, declared.Readable)
    (h : .element e ∈ (Model.assemble items).items) :
    e.kind.isCustom = false ↔ DeclaredModeled (items.map Item.kindText) e.id := by
  obtain ⟨declared, hdeclared, -, hkeeps⟩ := exists_declared_of_mem_items_assemble h
  have hkind : ElementKind.ofTag e.kind.tag = e.kind := hkeeps (hreadable declared hdeclared)
  have hmodeled : e.kind.isCustom = false ↔ e.kind.tag ∈ elementTable.map Prod.fst := by
    rw [← not_iff_not, ← ElementKind.isCustom_ofTag, hkind, Bool.not_eq_false]
  rw [hmodeled]
  constructor
  · intro htag
    exact ⟨e.kind.tag, htag, (mem_kindTexts_iff hnodup h).2 rfl⟩
  · rintro ⟨text, htext, hmem⟩
    obtain rfl := (mem_kindTexts_iff hnodup h).1 hmem
    exact htext

/-- The record of an item has the tag of its kind. -/
theorem lookup_kind_recordEntries (item : Item) :
    item.recordEntries.lookup "kind" = some (.str item.kindTag) := by
  cases item <;> rfl

end Models

/-! ### Custom views -/

/-- Where the elements of entries tell by their kinds how they are declared, so does the first one
of a modeled kind. -/
theorem firstModeled_iff_of_kinds {kinds : List KindText} {entries : List Entry} {element : Ident}
    (h : ∀ entry ∈ entries, ∀ e, entry.item = .element e →
      (e.kind.isCustom = false ↔ DeclaredModeled kinds e.id)) :
    FirstModeled entries element ↔ FirstDeclaredModeled kinds entries element := by
  refine exists₄_congr fun before entry after e => and_congr_right fun hsplit => ?_
  have hmem : entry ∈ entries := by simp [hsplit]
  have hbefore : ∀ other ∈ before, other ∈ entries := by
    intro other hother
    simp [hsplit, hother]
  refine and_congr_right fun he => and_congr (h entry hmem e he) (and_congr_right fun _ => ?_)
  refine forall₂_congr fun other hother => forall₂_congr fun e' he' => ?_
  rw [← h other (hbefore other hother) e' he', Bool.not_eq_false]

namespace ViewSet

variable {set : ViewSet} {model : Model} {settings : Settings} {id : Ident} {view : View}
  {entries : List Entry}

/-- A view is made of the entries that it gathers. -/
theorem Gathers.compose_eq (h : set.Gathers model settings view entries)
    (hview : set.find? id = some view) : ∃ layout warnings,
      (set.compose model settings id).value =
        (finishContent view layout entries warnings).value := by
  cases h with
  | own hroot =>
    rw [compose_of_root hview hroot, entriesOf_of_root hview hroot]
    exact ⟨_, _, rfl⟩
  | @filtered base filter content hbody hbase =>
    obtain ⟨n, hends⟩ := endsAtRoot_of_ok hbase
    have hwalk : WalkEnds set.base? id := hends.walkEnds.of_next (base?_of_filtered hview hbody)
    exact ⟨_, _, compose_of_base_ok hview hbody hwalk hbase⟩

/-- What a view gathers are display copies of items of the model. -/
theorem Gathers.exists_copiesOf (h : set.Gathers model settings view entries) :
    ∃ body, CopiesOf model body entries := by
  cases h with
  | own hroot => exact ⟨view.body, Model.copiesOf_ownEntries settings.selection view⟩
  | @filtered base filter content hbody hbase =>
    obtain ⟨n, hends⟩ := endsAtRoot_of_ok hbase
    obtain ⟨root, -, hcopies⟩ : ∃ root, set.IsRootOf root base ∧
        CopiesOf model root.body (set.entriesOf model settings base) := copiesOf_entriesOf hends
    rw [(composesAlong hends).entries_of_ok hbase]
    exact ⟨root.body, hcopies.sublist (filter.narrow_sublist _ _)⟩

/-- An element that a view gathers has the name and the kind of an element of the model. -/
theorem Gathers.exists_mem_items (h : set.Gathers model settings view entries) {entry : Entry}
    (hentry : entry ∈ entries) {e : Element} (he : entry.item = .element e) :
    ∃ e', .element e' ∈ model.items ∧ e'.id = e.id ∧ e'.kind = e.kind := by
  obtain ⟨body, hcopies⟩ := h.exists_copiesOf
  obtain ⟨record, hrecord, hcopy⟩ := hcopies.copy entry hentry
  obtain ⟨e', rfl⟩ := hcopy.exists_element he
  have hplain := hcopy.plain
  rw [he, Item.plain, Item.plain, Item.element.injEq, Element.mk.injEq] at hplain
  exact ⟨e', Model.mem_items_of_item? hrecord, hplain.1.symm, hplain.2.1.symm⟩

section Custom

variable (h : set.Gathers model settings view entries) (hview : set.find? id = some view)
  (hkind : view.kind = .ofTag "custom")

include h hview hkind

/-- A custom view is refused for the first element of a modeled kind that it gathers. -/
theorem Gathers.compose_eq_error_iff {element : Ident} :
    (set.compose model settings id).value = .error (.invalid id (.nonCustomElement element)) ↔
      FirstModeled entries element := by
  obtain ⟨layout, warnings, hcompose⟩ := h.compose_eq hview
  have hoffender : view.offender? entries = firstModeledElement entries := if_pos hkind
  rw [hcompose, ← firstModeledElement_eq_some_iff]
  cases hfirst : firstModeledElement entries with
  | none =>
    rw [finishContent_of_no_offender (hoffender.trans hfirst)]
    simp
  | some found =>
    rw [finishContent_of_offender (hoffender.trans hfirst), id_of_find? hview]
    simp

/-- It shows what it gathers when there is no such element. -/
theorem Gathers.exists_content_iff :
    (∃ content, (set.compose model settings id).value = .ok content ∧ content.entries = entries ∧
        content.recordEntries.lookup "kind" = some (.str "custom")) ↔
      ∀ entry ∈ entries, ∀ e, entry.item = .element e → e.kind.isCustom = true := by
  obtain ⟨layout, warnings, hcompose⟩ := h.compose_eq hview
  have hoffender : view.offender? entries = firstModeledElement entries := if_pos hkind
  rw [hcompose, ← firstModeledElement_eq_none_iff]
  cases hfirst : firstModeledElement entries with
  | none =>
    rw [finishContent_of_no_offender (hoffender.trans hfirst)]
    refine iff_of_true ⟨_, rfl, entries_ofEntries, ?_⟩ rfl
    have htag : view.kind.tag = "custom" := by rw [hkind, ViewKind.tag_ofTag]
    rw [← htag]
    rfl
  | some found =>
    rw [finishContent_of_offender (hoffender.trans hfirst)]
    exact iff_of_false (by simp) (by simp)

end Custom

end ViewSet

/-- An element that a view gathers is of a modeled kind exactly when it is declared with the text of
one. -/
theorem ViewSet.Gathers.isCustom_eq_false_iff {set : ViewSet} {settings : Settings} {view : View}
    {entries : List Entry} {items : List Item}
    (h : set.Gathers (Model.assemble items) settings view entries)
    (hnodup : (items.map Item.id).Nodup) (hreadable : ∀ declared ∈ items, declared.Readable)
    {entry : Entry} (hentry : entry ∈ entries) {e : Element} (he : entry.item = .element e) :
    e.kind.isCustom = false ↔ DeclaredModeled (items.map Item.kindText) e.id := by
  obtain ⟨e', hmem, hid, hkind⟩ := h.exists_mem_items hentry he
  rw [← hid, ← hkind]
  exact Viewpoint.isCustom_eq_false_iff hnodup hreadable hmem

/-- Criteria of the key `el` alone ask for one kind. -/
theorem criteria_el [PatternEngine] (levels : Nat) (text : String) :
    (CriteriaDecl.decoder (levels + 1) (.obj [("el", .str text)])).map CriteriaDecl.criteria =
      some (.ok (Predicate.kind text).alone) := by
  have hdecl : CriteriaDecl.decoder (levels + 1) (.obj [("el", .str text)]) =
      some (.all [⟨"el", .text text⟩]) := rfl
  have hsplit : ClauseDecl.splitKey "el" = (false, "el") := by decide
  have hclause : ClauseDecl.clause ⟨"el", .text text⟩ = .ok ⟨.kind text, false⟩ := by
    rw [ClauseDecl.clause, hsplit]
    rfl
  rw [hdecl, Option.map_some, CriteriaDecl.criteria, readConjunction, List.mapM_cons, hclause]
  rfl

/-- A model of items that are read under distinct names is selected from and shown by the texts of
their kinds. -/
theorem keepsKinds_assemble [PatternEngine] {items : List Item} (hnodup : (items.map Item.id).Nodup)
    (hreadable : ∀ declared ∈ items, declared.Readable) :
    KeepsKinds (items.map Item.kindText) (Model.assemble items) where
  selects levels text := by
    refine ⟨(Predicate.kind text).alone, criteria_el levels text, fun item hitem => ?_,
      fun settings id => ?_⟩
    · rw [Model.satisfies_alone, mem_kindTexts_iff hnodup hitem]
      exact decide_eq_true_iff
    · rw [Model.mem_matching_iff]
      constructor
      · rintro ⟨item, hitem, hholds, rfl⟩
        rw [Model.satisfies_alone] at hholds
        exact ⟨(mem_kindTexts_iff hnodup hitem).2 (of_decide_eq_true hholds), item, hitem, rfl⟩
      · rintro ⟨htext, item, hitem, rfl⟩
        refine ⟨item, hitem, ?_, rfl⟩
        rw [Model.satisfies_alone]
        exact decide_eq_true ((mem_kindTexts_iff hnodup hitem).1 htext)
  writes item hitem text := by
    rw [lookup_kind_recordEntries, mem_kindTexts_iff hnodup hitem]
    simp
  refuses_iff set settings id view entries hview hkind hgathers element := by
    rw [hgathers.compose_eq_error_iff hview hkind]
    exact firstModeled_iff_of_kinds fun entry hentry e he =>
      hgathers.isCustom_eq_false_iff hnodup hreadable hentry he
  shows_iff set settings id view entries hview hkind hgathers := by
    rw [hgathers.exists_content_iff hview hkind]
    refine forall₂_congr fun entry hentry => forall₂_congr fun e he => ?_
    rw [← hgathers.isCustom_eq_false_iff hnodup hreadable hentry he, Bool.not_eq_false]

/-- Every model that is built from sources that are read is selected from and shown by the texts of
the kinds that the sources write. -/
theorem keepsKinds_of_build [PatternEngine] {levels : Nat} {json : Json} {sources : List Source}
    {built : Built} (hread : Source.decoder.list levels json = some sources)
    (hbuilt : (Model.build sources).value = .ok built) :
    ∃ kinds, kindTexts levels json = some kinds ∧ KeepsKinds kinds built.model := by
  obtain ⟨hmodel, hnodup⟩ := assemble_of_build hbuilt
  have hreadable : ∀ declared ∈ declaredItems sources, declared.Readable := by
    intro declared hdeclared
    obtain ⟨source, hsource, hitem⟩ := List.mem_flatMap.1 hdeclared
    obtain ⟨levels, json, hsource⟩ := Decoder.exists_of_mem_list hread hsource
    exact Source.readable_of_decoder hsource declared hitem
  rw [hmodel]
  exact ⟨_, kindTexts_of_decoder hread, keepsKinds_assemble hnodup hreadable⟩

/-- Kinds keep their spelling from the sources to what is selected and shown. -/
theorem keepsKinds [PatternEngine] :
    KeepsSpelling elementTable .modeled .custom ElementKind.ofTag ElementKind.tag ∧
      KeepsSpelling relationTable .modeled .custom RelationKind.ofTag RelationKind.tag ∧
      KeepsSpelling viewTable .modeled .other ViewKind.ofTag ViewKind.tag ∧
      ∀ levels json sources built, Source.decoder.list levels json = some sources →
        (Model.build sources).value = .ok built →
          ∃ kinds, kindTexts levels json = some kinds ∧ KeepsKinds kinds built.model :=
  ⟨ElementKind.keepsSpelling, RelationKind.keepsSpelling, ViewKind.keepsSpelling,
    fun _ _ _ _ => keepsKinds_of_build⟩

/-- A stand of a modeled kind, a booth in it whose kind is spelled otherwise, and a relation. -/
def fairJson : Json :=
  .arr [.obj [("name", .str "fair"), ("decls", .arr
    [.obj [("element", .obj [("id", .str "stand"), ("el", .str "container"),
        ("children", .arr [.obj [("id", .str "stand/booth"), ("kind", .str "Container")]])])],
      .obj [("relation", .obj [("id", .str "opening"), ("kind", .str "opens"),
        ("from", .str "stand"), ("to", .str "stand/booth")])]])]]

/-- What is read there. -/
def fairSources : List Source :=
  [{ name := "fair"
     decls :=
      [.element (.node { id := "stand", kind := .modeled .container }
          [.node { id := "stand/booth", kind := .custom "Container" } []]),
        .relation { id := "opening", kind := .custom "opens", source := "stand",
                    target := "stand/booth" }] }]

/-- The texts of the kinds that are written there. -/
def fairKinds : List KindText :=
  [⟨⟨"stand"⟩, "container"⟩, ⟨⟨"stand/booth"⟩, "Container"⟩, ⟨⟨"opening"⟩, "opens"⟩]

/-- A custom view of the booth and the stand. -/
def fairViews : ViewSet where
  views := [{ id := ⟨"fair"⟩, kind := .modeled .custom,
              body := .explicit [{ item := ⟨"stand/booth"⟩ }, { item := ⟨"stand"⟩ }] }]
  distinct := by decide

/-- The view is refused for the stand, although the booth comes before it. -/
theorem keepsKinds_fairSources :
    ∃ built, Source.decoder.list nestingLimit fairJson = some fairSources ∧
      (Model.build fairSources).value = .ok built ∧ KeepsKinds fairKinds built.model ∧
      (fairViews.compose built.model {} ⟨"fair"⟩).value.map Content.ids =
        .error (.invalid ⟨"fair"⟩ (.nonCustomElement ⟨"stand"⟩)) := by
  obtain ⟨built, hbuilt, hcompose⟩ :
      ∃ built, (Model.build fairSources).value = .ok built ∧
        (fairViews.compose built.model {} ⟨"fair"⟩).value.map Content.ids =
          .error (.invalid ⟨"fair"⟩ (.nonCustomElement ⟨"stand"⟩)) :=
    exists_built_of_map (by decide +kernel)
  have hread : Source.decoder.list nestingLimit fairJson = some fairSources := rfl
  have htexts : kindTexts nestingLimit fairJson = some fairKinds := rfl
  obtain ⟨kinds, hkinds, hkeeps⟩ := keepsKinds.2.2.2 nestingLimit fairJson fairSources built hread
    hbuilt
  rw [htexts] at hkinds
  cases hkinds
  exact ⟨built, hread, hbuilt, hkeeps, hcompose⟩

end Viewpoint
