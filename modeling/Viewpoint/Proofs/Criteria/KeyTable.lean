import Viewpoint.Criteria.Reading

/-!
# The table of keys

Criteria are written under twenty-nine keys. Each key takes values of one form: any text, any list
of texts, a flag, the name of a maturity, a list of such names, or a pattern. A key reads every
value of its form, as the predicate that is written with that key and that value. It refuses any
other value: first if the value is of another sort, and only then for what the value says.

Predicates are read by one table and written by another. That the two agree is a result here: each
key is read under the text under which it is written, and no other text is read.

* `keyTable` is the table, and `mem_keyTable_iff` says that it lists the keys by their spelling.
* `ValueForm.Admits` and `ValueForm.Refuses` say which values a form has and what is said of others,
  and `ValueForm.Yields` what is made of a value.
* `Predicate.value` is the value of a predicate as it is written, and `Predicate.IsWritten` says
  under which key and with which value that is.
* `Predicate.Key.read_yields`, `Predicate.read_eq_unknownKey_iff` and `Predicate.isWritten_of_read`
  say that the tables agree.
-/

namespace Viewpoint

/-! ### Values -/

/-- What a key takes. -/
inductive ValueForm where
  | text | list | flag | maturity | maturities | pattern
  deriving DecidableEq

/-- The keys of criteria, each with what it takes. -/
def keyTable : List (String × ValueForm) :=
  [("el", .text), ("id", .text), ("namespace", .text), ("namespace-prefix", .text),
    ("tech", .text), ("tag", .text),
    ("from", .text), ("to", .text), ("refers-to", .text), ("referred-by", .text),
    ("child-of", .text), ("parent-of", .text), ("descendant-of", .text), ("ancestor-of", .text),
    ("els", .list), ("ids", .list), ("namespaces", .list), ("techs", .list),
    ("all-techs", .list), ("tags", .list), ("all-tags", .list),
    ("external?", .flag), ("element?", .flag), ("relation?", .flag),
    ("maturity", .maturity), ("maturities", .maturities),
    ("name", .pattern), ("desc", .pattern), ("doc", .pattern)]

/-- The texts that name a maturity or its absence. -/
def maturityNames : List String :=
  ["proposed", "deprecated", "none"]

/-- The sort of a value. -/
def ClauseValue.shape : ClauseValue → ClauseShape
  | flag _ => .flag
  | text _ => .text
  | list _ => .list

namespace ValueForm

/-- The sort of the values of a form. -/
def shape : ValueForm → ClauseShape
  | text | maturity | pattern => .text
  | list | maturities => .list
  | flag => .flag

/-- The values of a form. -/
inductive Admits [PatternEngine] : ValueForm → ClauseValue → Prop
  | text {value : String} : Admits text (.text value)
  | list {values : List String} : Admits list (.list values)
  | flag {value : Bool} : Admits flag (.flag value)
  | maturity {value : String} (h : value ∈ maturityNames) : Admits maturity (.text value)
  | maturities {values : List String} (h : ∀ value ∈ values, value ∈ maturityNames) :
      Admits maturities (.list values)
  | pattern {value : String} (h : ∃ compiled, PatternEngine.compile value = .ok compiled) :
      Admits pattern (.text value)

/-- What is said of a value that a key of some form cannot have: first that it is of another sort,
then that it is no pattern, no maturity, or a list in which this is the first text that is none. -/
inductive Refuses [PatternEngine] (key : String) : ValueForm → ClauseValue → CriteriaError → Prop
  | shape {form : ValueForm} {value : ClauseValue} (h : value.shape ≠ form.shape) :
      Refuses key form value (.wrongShape key form.shape)
  | pattern {value : String} {fault : Pattern.Fault}
      (h : PatternEngine.compile value = .error fault) :
      Refuses key pattern (.text value) (.invalidPattern key fault)
  | maturity {value : String} (h : value ∉ maturityNames) :
      Refuses key maturity (.text value) (.invalidMaturity key value)
  | maturities {values : List String} {value : String}
      (h : values.find? (· ∉ maturityNames) = some value) :
      Refuses key maturities (.list values) (.invalidMaturity key value)

variable [PatternEngine] {key : String} {form : ValueForm} {value : ClauseValue}
  {error error' : CriteriaError}

/-- A value that a form has is of its sort. -/
theorem Admits.shape_eq (h : form.Admits value) : value.shape = form.shape := by
  cases h <;> rfl

/-- Nothing is said of a value that the form has. -/
theorem Refuses.not_admits (h : form.Refuses key value error) : ¬ form.Admits value := by
  intro hadmits
  cases h with
  | shape h => exact h hadmits.shape_eq
  | pattern h =>
    cases hadmits with
    | pattern hcompile =>
      obtain ⟨compiled, hcompile⟩ := hcompile
      rw [hcompile] at h
      cases h
  | maturity h =>
    cases hadmits with
    | maturity hname => exact h hname
  | maturities h =>
    cases hadmits with
    | maturities hnames =>
      have hnot := List.find?_some h
      simp [hnames _ (List.mem_of_find?_eq_some h)] at hnot

/-- One thing is said of a value. -/
theorem Refuses.unique (h : form.Refuses key value error) (h' : form.Refuses key value error') :
    error = error' := by
  cases h with
  | shape h =>
    cases h' with
    | shape _ => rfl
    | pattern _ => exact absurd rfl h
    | maturity _ => exact absurd rfl h
    | maturities _ => exact absurd rfl h
  | pattern h =>
    cases h' with
    | shape h' => exact absurd rfl h'
    | pattern h' =>
      rw [h] at h'
      cases h'
      rfl
  | maturity h =>
    cases h' with
    | shape h' => exact absurd rfl h'
    | maturity h' => rfl
  | maturities h =>
    cases h' with
    | shape h' => exact absurd rfl h'
    | maturities h' =>
      rw [h] at h'
      cases h'
      rfl

end ValueForm

/-! ### Writing -/

/-- The name of a maturity or of its absence. -/
def maturityName : Option Maturity → String
  | none => noMaturity
  | some maturity => Vocabulary.spelling maturity

/-- The value of a predicate as it is written. -/
def Predicate.value : Predicate → ClauseValue
  | kind wanted => .text wanted
  | kinds wanted => .list wanted
  | id wanted => .text wanted.text
  | ids wanted => .list (wanted.map Ident.text)
  | nameSpace path => .text path
  | nameSpaces paths => .list paths
  | nameSpacePrefix path => .text path
  | tech wanted => .text wanted
  | techs wanted => .list wanted
  | allTechs wanted => .list wanted
  | tag wanted => .text wanted
  | tags wanted => .list wanted
  | allTags wanted => .list wanted
  | external expected => .flag expected
  | isElement expected => .flag expected
  | isRelation expected => .flag expected
  | maturity wanted => .text (maturityName wanted)
  | maturities wanted => .list (wanted.map maturityName)
  | source other => .text other.text
  | target other => .text other.text
  | refersTo other => .text other.text
  | referredBy other => .text other.text
  | childOf other => .text other.text
  | parentOf other => .text other.text
  | descendantOf other => .text other.text
  | ancestorOf other => .text other.text
  | name pattern => .text pattern.source
  | desc pattern => .text pattern.source
  | doc pattern => .text pattern.source

/-! ### Reading a value -/

/-- What is made in two steps is made by the second one of what the first one makes. -/
theorem exists_of_bind_eq_ok {ε α β : Type} {made : Except ε α} {next : α → Except ε β} {value : β}
    (h : made >>= next = .ok value) : ∃ first, made = .ok first ∧ next first = .ok value := by
  cases made with
  | error error => cases h
  | ok first => exact ⟨first, rfl, h⟩

/-- The name of a maturity or of its absence is read, and any other text is refused. -/
theorem readMaturity_cases (key text : String) :
    (∃ maturity, readMaturity key text = .ok maturity ∧ maturityName maturity = text ∧
      text ∈ maturityNames) ∨
    (readMaturity key text = .error (.invalidMaturity key text) ∧ text ∉ maturityNames) := by
  rw [readMaturity, Maturity.ofText?_eq]
  split
  · next hnone =>
    exact Or.inl ⟨none, rfl, hnone.symm, by simp [hnone, noMaturity, maturityNames]⟩
  · next hnone =>
    split
    · next found hfound =>
      have hspelling := Vocabulary.spelling_of_ofSpelling? hfound
      refine Or.inl ⟨some found, rfl, hspelling, ?_⟩
      rw [← hspelling]
      cases found <;> decide
    · next hfound =>
      refine Or.inr ⟨rfl, fun hmem => ?_⟩
      have hwords := Vocabulary.ofSpelling?_eq_none_iff.1 hfound
      simp only [maturityNames, List.mem_cons, List.not_mem_nil, or_false] at hmem
      rcases hmem with rfl | rfl | rfl
      · exact hwords (by decide)
      · exact hwords (by decide)
      · exact hnone rfl

/-- A list of names of maturities is read, and any other list is refused for the first text that is
none. -/
theorem mapM_readMaturity_cases (key : String) (texts : List String) :
    (∃ maturities, texts.mapM (readMaturity key) = .ok maturities ∧
      maturities.map maturityName = texts ∧ ∀ text ∈ texts, text ∈ maturityNames) ∨
    (∃ text, texts.mapM (readMaturity key) = .error (.invalidMaturity key text) ∧
      texts.find? (· ∉ maturityNames) = some text) := by
  induction texts with
  | nil => exact Or.inl ⟨[], rfl, rfl, by simp⟩
  | cons text texts ih =>
    rw [List.mapM_cons]
    rcases readMaturity_cases key text with ⟨maturity, hread, hname, hmem⟩ | ⟨hread, hnot⟩
    · rw [hread]
      rcases ih with ⟨maturities, hrest, hnames, hall⟩ | ⟨bad, hrest, hfind⟩
      · refine Or.inl ⟨maturity :: maturities, ?_, ?_, ?_⟩
        · rw [hrest]
          rfl
        · rw [List.map_cons, hname, hnames]
        · exact List.forall_mem_cons.2 ⟨hmem, hall⟩
      · refine Or.inr ⟨bad, ?_, ?_⟩
        · rw [hrest]
          rfl
        · rw [List.find?_cons_of_neg (by simpa using hmem), hfind]
    · refine Or.inr ⟨text, ?_, ?_⟩
      · rw [hread]
        rfl
      · rw [List.find?_cons_of_pos (by simpa using hnot)]

/-- What is made of a value by its form: something that fits, or an error that the form has for
it. -/
inductive ValueForm.Yields [PatternEngine] {α : Type} (form : ValueForm) (key : String)
    (value : ClauseValue) (fits : α → Prop) : Except CriteriaError α → Prop
  | read {found : α} (hfits : fits found) (h : form.Admits value) :
    Yields form key value fits (.ok found)
  | refused {error : CriteriaError} (h : form.Refuses key value error) :
    Yields form key value fits (.error error)

/-- What is made further of what fits. -/
theorem ValueForm.Yields.map [PatternEngine] {α β : Type} {form : ValueForm} {key : String}
    {value : ClauseValue} {fits : α → Prop} {fits' : β → Prop} {made : Except CriteriaError α}
    {next : α → β} (h : form.Yields key value fits made) (hnext : ∀ a, fits a → fits' (next a)) :
    form.Yields key value fits' (made >>= fun a => pure (next a)) := by
  cases h with
  | read hfits h => exact .read (hnext _ hfits) h
  | refused h => exact .refused h

namespace ClauseValue

variable [PatternEngine] (value : ClauseValue) (key : String)

/-- A key that takes texts reads every text. -/
theorem readText_yields :
    ValueForm.text.Yields key value (fun text => .text text = value) (value.readText key) := by
  cases value with
  | text text => exact .read rfl .text
  | _ => exact .refused (.shape nofun)

/-- A key that takes lists reads every list. -/
theorem readList_yields :
    ValueForm.list.Yields key value (fun texts => .list texts = value) (value.readList key) := by
  cases value with
  | list texts => exact .read rfl .list
  | _ => exact .refused (.shape nofun)

/-- A key that takes flags reads both flags. -/
theorem readFlag_yields :
    ValueForm.flag.Yields key value (fun flag => .flag flag = value) (value.readFlag key) := by
  cases value with
  | flag flag => exact .read rfl .flag
  | _ => exact .refused (.shape nofun)

/-- A key that takes a maturity reads the texts that name one or none. -/
theorem readMaturity_yields : ValueForm.maturity.Yields key value
    (fun maturity => .text (maturityName maturity) = value)
    (value.readText key >>= readMaturity key) := by
  cases value with
  | text text =>
    show ValueForm.maturity.Yields key _ _ (readMaturity key text)
    rcases readMaturity_cases key text with ⟨maturity, hread, hname, hmem⟩ | ⟨hread, hnot⟩
    · rw [hread]
      exact .read (by rw [hname]) (.maturity hmem)
    · rw [hread]
      exact .refused (.maturity hnot)
  | _ => exact .refused (.shape nofun)

/-- A key that takes maturities reads the lists of texts that name one or none. -/
theorem readMaturities_yields : ValueForm.maturities.Yields key value
    (fun maturities => .list (maturities.map maturityName) = value)
    (value.readList key >>= List.mapM (readMaturity key)) := by
  cases value with
  | list texts =>
    show ValueForm.maturities.Yields key _ _ (texts.mapM (readMaturity key))
    rcases mapM_readMaturity_cases key texts with
      ⟨maturities, hread, hnames, hall⟩ | ⟨text, hread, hfind⟩
    · rw [hread]
      exact .read (by rw [hnames]) (.maturities hall)
    · rw [hread]
      exact .refused (.maturities hfind)
  | _ => exact .refused (.shape nofun)

/-- A key that takes patterns reads the texts that compile. -/
theorem readPattern_yields : ValueForm.pattern.Yields key value
    (fun pattern => .text pattern.source = value) (value.readPattern key) := by
  cases value with
  | text source =>
    simp only [readPattern, readText, bind, Except.bind]
    cases hcompile : PatternEngine.compile source with
    | error fault => exact .refused (.pattern hcompile)
    | ok pattern =>
      exact .read (by rw [PatternEngine.source_of_compile hcompile]) (.pattern ⟨pattern, hcompile⟩)
  | _ => exact .refused (.shape nofun)

end ClauseValue

/-! ### Two tables -/

namespace Predicate

/-- A predicate is written under a key and with a value. -/
structure IsWritten (key : String) (value : ClauseValue) (predicate : Predicate) : Prop where
  /-- The key. -/
  key_eq : Vocabulary.spelling predicate.key = key
  /-- The value. -/
  value_eq : predicate.value = value

namespace Key

/-- What the key takes, by the table. -/
def form : Key → ValueForm
  | kinds | ids | nameSpaces | techs | allTechs | tags | allTags => .list
  | external | isElement | isRelation => .flag
  | maturity => .maturity
  | maturities => .maturities
  | name | desc | doc => .pattern
  | _ => .text

/-- The table lists the keys by their spelling. -/
theorem mem_keyTable_iff {name : String} {form : ValueForm} :
    (name, form) ∈ keyTable ↔ ∃ key : Key, Vocabulary.spelling key = name ∧ key.form = form := by
  constructor
  · intro h
    have hall : ∀ entry ∈ keyTable, ∃ key ∈ (Vocabulary.words : List Key),
        Vocabulary.spelling key = entry.1 ∧ key.form = entry.2 := by decide +kernel
    obtain ⟨key, -, hkey⟩ := hall _ h
    exact ⟨key, hkey⟩
  · rintro ⟨key, rfl, rfl⟩
    cases key <;> decide +kernel

/-- Keys with the same spelling are the same. -/
theorem spelling_injective : Function.Injective (Vocabulary.spelling : Key → String) := by
  have hread : ∀ key : Key, Vocabulary.ofSpelling? (Vocabulary.spelling key) = some key := by
    intro key
    cases key <;> decide +kernel
  intro key key' h
  have hkey := hread key
  rw [h, hread] at hkey
  exact (Option.some.inj hkey).symm

/-- The table has one form for a name. -/
theorem keyTable_unique {name : String} {form form' : ValueForm} (h : (name, form) ∈ keyTable)
    (h' : (name, form') ∈ keyTable) : form = form' := by
  obtain ⟨key, rfl, rfl⟩ := mem_keyTable_iff.1 h
  obtain ⟨key', hspelling, rfl⟩ := mem_keyTable_iff.1 h'
  rw [spelling_injective hspelling]

variable [PatternEngine]

/-- Under the text under which a key is written, a value is read as the predicate that is written so,
or refused by the key's form. -/
theorem read_yields (key : Key) (value : ClauseValue) :
    key.form.Yields (Vocabulary.spelling key) value (IsWritten (Vocabulary.spelling key) value)
      (read (Vocabulary.spelling key) value) := by
  cases key with
  | kind | id | nameSpace | nameSpacePrefix | tech | tag | source | target | refersTo | referredBy
  | childOf | parentOf | descendantOf | ancestorOf =>
    exact (value.readText_yields _).map fun _ h => ⟨rfl, h⟩
  | kinds | nameSpaces | techs | allTechs | tags | allTags =>
    exact (value.readList_yields _).map fun _ h => ⟨rfl, h⟩
  | ids =>
    refine (value.readList_yields _).map fun texts h => ⟨rfl, ?_⟩
    simpa [Predicate.value, Function.comp_def] using h
  | external | isElement | isRelation =>
    exact (value.readFlag_yields _).map fun _ h => ⟨rfl, h⟩
  -- names of maturities are read in two steps, which the form takes as one
  | maturity =>
    have hread : read "maturity" value = value.readText "maturity" >>= readMaturity "maturity" >>=
        fun found => pure (.maturity found) := by
      cases value <;> rfl
    exact hread ▸ (value.readMaturity_yields "maturity").map fun _ h => ⟨rfl, h⟩
  | maturities =>
    have hread : read "maturities" value = value.readList "maturities" >>=
        List.mapM (readMaturity "maturities") >>= fun found => pure (.maturities found) := by
      cases value <;> rfl
    exact hread ▸ (value.readMaturities_yields "maturities").map fun _ h => ⟨rfl, h⟩
  | name | desc | doc => exact (value.readPattern_yields _).map fun _ h => ⟨rfl, h⟩

end Key

variable [PatternEngine]

/-- Under a key of the table, a value is read or refused by its form. -/
theorem read_yields {name : String} {form : ValueForm} (h : (name, form) ∈ keyTable)
    (value : ClauseValue) : form.Yields name value (IsWritten name value) (read name value) := by
  obtain ⟨key, rfl, rfl⟩ := Key.mem_keyTable_iff.1 h
  exact key.read_yields value

/-- The keys that are refused as unknown are those that do not stand in the table. -/
theorem read_eq_unknownKey_iff {name : String} {value : ClauseValue} :
    read name value = .error (.unknownKey name) ↔ ∀ form, (name, form) ∉ keyTable := by
  constructor
  · intro hread form hform
    have hyields := read_yields hform value
    rw [hread] at hyields
    cases hyields with
    | refused h => cases h
  · intro h
    have hname : name ∉ keyTable.map Prod.fst := by
      intro hmem
      obtain ⟨⟨_, form⟩, hform, rfl⟩ := List.mem_map.1 hmem
      exact h form hform
    unfold read
    split
    case h_30 => rfl
    -- every other case reads a name that stands in the table
    all_goals exact absurd (by decide +kernel) hname

/-- What is read is written under the key and with the value that it is read from. -/
theorem isWritten_of_read {name : String} {value : ClauseValue} {predicate : Predicate}
    (h : read name value = .ok predicate) : predicate.IsWritten name value := by
  by_cases hform : ∃ form, (name, form) ∈ keyTable
  · obtain ⟨form, hform⟩ := hform
    have hyields := read_yields hform value
    rw [h] at hyields
    cases hyields with
    | read hwritten _ => exact hwritten
  · rw [read_eq_unknownKey_iff.2 (not_exists.1 hform)] at h
    cases h

end Predicate

end Viewpoint
