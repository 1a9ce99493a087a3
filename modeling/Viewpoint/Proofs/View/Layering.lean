import Viewpoint.Proofs.View.Copies

/-!
# Layouts along a base chain

A filtered view lays its layout over that of its base, which may filter another view and have done
the same. What lies above counts where it says something, so laying layouts over one another is
associative, an empty layout changes nothing, and along a base chain the nearest view decides. It
decides each part of the layout by itself: the direction, and the text under each name.

* `HintMap.ext_get?` says that hint maps are told apart by what is found in them.
* `Layout.inherit_assoc`, `Layout.default_inherit`, `Layout.inherit_default` and
  `Layout.inherit_self` are the laws of laying layouts over one another.
* `ViewSet.BaseViews` lists the views on a base chain, the nearest first.
* `InheritsNearest` says that the nearest view decides, and `layersLayouts` that this is so for
  every view that composes.
-/

namespace Viewpoint

namespace HintMap

variable {map left right : HintMap} {name value : String}

/-- The names of a hint map. -/
def names (map : HintMap) : List String :=
  map.entries.map Prod.fst

/-- No name comes twice. -/
theorem nodup_names (map : HintMap) : map.names.Nodup := by
  refine map.sorted.imp fun {a b} hlt => ?_
  rintro rfl
  exact String.lt_irrefl a hlt

/-- What is found under a name is its entry. -/
theorem get?_eq_some_iff : map.get? name = some value ↔ (name, value) ∈ map.entries := by
  have hfind : ∀ {entry : String × String}, map.entries.find? (·.1 = name) = some entry ↔
      entry ∈ map.entries ∧ entry.1 = name := find?_eq_some_iff_of_nodup map.nodup_names
  rw [get?, Option.map_eq_some_iff]
  constructor
  · rintro ⟨entry, hentry, rfl⟩
    obtain ⟨hmem, rfl⟩ := hfind.1 hentry
    exact hmem
  · exact fun hmem => ⟨(name, value), hfind.2 ⟨hmem, rfl⟩, rfl⟩

/-- Something is found under the names of a hint map and under no other. -/
theorem mem_names_iff : name ∈ map.names ↔ ∃ value, map.get? name = some value := by
  simp only [names, get?_eq_some_iff, List.mem_map, Prod.exists, exists_and_right, exists_eq_right]

/-- Hint maps in which the same is found under every name are equal. -/
theorem ext_get? (h : ∀ name, left.get? name = right.get? name) : left = right := by
  have hperm : left.entries.Perm right.entries := by
    rw [List.perm_ext_iff_of_nodup left.nodup_names.of_map right.nodup_names.of_map]
    rintro ⟨name, value⟩
    rw [← get?_eq_some_iff, ← get?_eq_some_iff, h]
  -- both are sorted by their names, of which none comes before itself
  have hleft : left.entries.Pairwise fun a b => a.1 < b.1 := List.pairwise_map.1 left.sorted
  have hright : right.entries.Pairwise fun a b => a.1 < b.1 := List.pairwise_map.1 right.sorted
  have hentries : left.entries = right.entries := by
    refine hperm.eq_of_pairwise (fun a b _ _ hab hba => ?_) hleft hright
    exact absurd (String.lt_trans hab hba) (String.lt_irrefl a.1)
  cases left
  cases right
  cases hentries
  rfl

end HintMap

namespace Layout

variable {left right : Layout}

/-- Layouts with the same direction and the same hints are equal. -/
theorem ext_get? (hdirection : left.direction = right.direction)
    (hhints : ∀ name, left.hints.get? name = right.hints.get? name) : left = right := by
  cases left
  cases right
  cases hdirection
  cases HintMap.ext_get? hhints
  rfl

/-- Where a layout gives no direction, that of the base counts. -/
theorem direction_inherit (own base : Layout) :
    (own.inherit base).direction = own.direction.or base.direction := rfl

/-- Where a layout gives no hint of a name, that of the base counts. -/
theorem get?_inherit (own base : Layout) (name : String) :
    (own.inherit base).hints.get? name = (own.hints.get? name).or (base.hints.get? name) :=
  HintMap.get?_update base.hints own.hints name

/-- It does not matter which of three layouts are laid over one another first. -/
theorem inherit_assoc (upper middle lower : Layout) :
    (upper.inherit middle).inherit lower = upper.inherit (middle.inherit lower) := by
  refine ext_get? ?_ fun name => ?_
  · simp only [direction_inherit, Option.or_assoc]
  · simp only [get?_inherit, Option.or_assoc]

/-- An empty layout lets all of the base through. -/
theorem default_inherit (layout : Layout) : Layout.inherit {} layout = layout :=
  ext_get? Option.none_or fun name => get?_inherit {} layout name

/-- An empty base adds nothing. -/
theorem inherit_default (layout : Layout) : layout.inherit {} = layout := by
  refine ext_get? Option.or_none fun name => ?_
  rw [get?_inherit]
  exact Option.or_none

/-- A layout laid over itself stays as it is. -/
theorem inherit_self (layout : Layout) : layout.inherit layout = layout := by
  refine ext_get? Option.or_self fun name => ?_
  rw [get?_inherit, Option.or_self]

/-- The layouts of views laid over one another, that of the first view on top. -/
def ofViews (views : List View) : Layout :=
  views.foldr (fun view below => view.layout.inherit below) {}

end Layout

/-- A layout has from a list of views what the first one of them says that says something about it:
its direction, and its hint of each name. -/
structure InheritsNearest (views : List View) (layout : Layout) : Prop where
  /-- The direction is that of the first view that gives one. -/
  direction : layout.direction = views.findSome? (·.layout.direction)
  /-- The hint of a name is that of the first view that has the name. -/
  hint : ∀ name, layout.hints.get? name = views.findSome? (·.layout.hints.get? name)
  /-- The names of the hints are those that a view has. -/
  names : ∀ name, name ∈ layout.hints.names ↔ ∃ view ∈ views, name ∈ view.layout.hints.names

/-- A part of layouts for which the upper one counts where it has the part is, of the layouts of
views, that of the first view that has it. -/
theorem Layout.part_ofViews {β : Type} (part : Layout → Option β) (hempty : part {} = none)
    (hinherit : ∀ own base, part (own.inherit base) = (part own).or (part base))
    (views : List View) : part (ofViews views) = views.findSome? (part ·.layout) := by
  induction views with
  | nil => exact hempty
  | cons view rest ih =>
    rw [ofViews, List.foldr_cons, hinherit, List.findSome?_cons, ← ih]
    cases part view.layout with
    | none => rfl
    | some found => rfl

/-- Of layouts that are laid over one another, the first one that says something counts. -/
theorem inheritsNearest_ofViews (views : List View) :
    InheritsNearest views (Layout.ofViews views) := by
  have hhint : ∀ name, (Layout.ofViews views).hints.get? name =
      views.findSome? (·.layout.hints.get? name) := fun name =>
    Layout.part_ofViews (·.hints.get? name) rfl
      (fun own base => Layout.get?_inherit own base name) views
  refine ⟨Layout.part_ofViews Layout.direction rfl Layout.direction_inherit views, hhint,
    fun name => ?_⟩
  simp only [HintMap.mem_names_iff, hhint, ← Option.isSome_iff_exists, List.isSome_findSome?,
    List.any_eq_true]

namespace ViewSet

variable {set : ViewSet} {model : Model} {settings : Settings} {id : Ident} {content : Content}

/-- The views on the base chain of a name, from the view of this name to one that filters
nothing. -/
inductive BaseViews (set : ViewSet) : Ident → List View → Prop
  /-- The chain of a view that filters nothing. -/
  | root {id : Ident} {view : View} (hview : set.find? id = some view)
      (hroot : view.body.base? = none) : BaseViews set id [view]
  /-- A filtered view and the chain of its base. -/
  | step {id base : Ident} {view : View} {filter : TagFilter} {views : List View}
      (hview : set.find? id = some view) (hbody : view.body = .filtered base filter)
      (hbase : BaseViews set base views) : BaseViews set id (view :: views)

/-- A view that composes has the layouts of its base chain, each laid over the next one. -/
theorem exists_baseViews_of_ok (hok : (set.compose model settings id).value = .ok content) :
    ∃ views, set.BaseViews id views ∧ content.layout = Layout.ofViews views := by
  obtain ⟨n, hends⟩ := endsAtRoot_of_ok hok
  -- by induction on the walk: each view on the way lays its layout over what its base has
  induction n generalizing id content with
  | zero =>
    obtain ⟨name, view, hname, hview, hroot⟩ := hends
    cases hname
    rw [compose_of_root hview hroot] at hok
    refine ⟨[view], .root hview hroot, ?_⟩
    rw [eq_ofEntries_of_ok hok]
    exact (Layout.inherit_default view.layout).symm
  | succ n ih =>
    have hwalk := hends.walkEnds
    obtain ⟨view, base, filter, baseView, hview, hbody, hbase, -, hbaseEnds⟩ := hends.exists_base
    obtain ⟨baseContent, hcompose, hfinish⟩ := exists_base_of_ok hview hbody hwalk hbase hok
    obtain ⟨views, hviews, hlayout⟩ := ih hcompose hbaseEnds
    refine ⟨view :: views, .step hview hbody hviews, ?_⟩
    rw [eq_ofEntries_of_ok hfinish]
    exact congrArg view.layout.inherit hlayout

end ViewSet

/-- Layouts are laid over one another, and those of a base chain so that the nearest view
decides. -/
structure LayersLayouts : Prop where
  /-- It does not matter which of three layouts are laid over one another first. -/
  assoc : ∀ upper middle lower : Layout,
    (upper.inherit middle).inherit lower = upper.inherit (middle.inherit lower)
  /-- An empty layout changes nothing above a layout. -/
  default_inherit : ∀ layout : Layout, Layout.inherit {} layout = layout
  /-- An empty layout changes nothing below a layout. -/
  inherit_default : ∀ layout : Layout, layout.inherit {} = layout
  /-- Neither does the layout itself. -/
  inherit_self : ∀ layout : Layout, layout.inherit layout = layout
  /-- A view that composes inherits from its base chain what the nearest view says. -/
  nearest : ∀ (set : ViewSet) (model : Model) (settings : Settings) (id : Ident)
    (content : Content), (set.compose model settings id).value = .ok content →
      ∃ views, set.BaseViews id views ∧ InheritsNearest views content.layout

/-- Layouts are laid over one another along base chains. -/
theorem layersLayouts : LayersLayouts where
  assoc := Layout.inherit_assoc
  default_inherit := Layout.default_inherit
  inherit_default := Layout.inherit_default
  inherit_self := Layout.inherit_self
  nearest set model settings id content hok := by
    obtain ⟨views, hviews, hlayout⟩ := ViewSet.exists_baseViews_of_ok hok
    exact ⟨views, hviews, hlayout ▸ inheritsNearest_ofViews views⟩

/-- Three views over one another: the lowest gives a direction, each of them a theme, and the two
outer ones one more hint. -/
def tierViews : ViewSet where
  views :=
    [{ id := ⟨"top"⟩, kind := .modeled .filtered
       layout := { hints := .ofList [("theme", "light"), ("zoom", "2")] }
       body := .filtered ⟨"middle"⟩ { mode := .drop, tags := ["storage"] } },
      { id := ⟨"middle"⟩, kind := .modeled .filtered
        layout := { hints := .ofList [("theme", "dark")] }
        body := .filtered ⟨"ground"⟩ { mode := .drop, tags := ["frontend"] } },
      { id := ⟨"ground"⟩, kind := .modeled .landscape
        layout := { direction := some .down
                    hints := .ofList [("theme", "plain"), ("legend", "on")] }
        body := .explicit [] }]
  distinct := by decide

/-- The top view has its own theme, and the direction and the legend of the lowest view. -/
theorem inheritsNearest_tierViews :
    ∃ content views, (tierViews.compose ∅ {} ⟨"top"⟩).value = .ok content ∧
      content.layout = { direction := some .down
                         hints := .ofList [("theme", "light"), ("legend", "on"), ("zoom", "2")] } ∧
      tierViews.BaseViews ⟨"top"⟩ views ∧ InheritsNearest views content.layout := by
  obtain ⟨content, hok, hlayout⟩ : ∃ content,
      (tierViews.compose ∅ {} ⟨"top"⟩).value = .ok content ∧ content.layout =
        { direction := some .down
          hints := .ofList [("theme", "light"), ("legend", "on"), ("zoom", "2")] } :=
    exists_ok_of_map (by decide +kernel)
  obtain ⟨views, hviews, hnearest⟩ :=
    layersLayouts.nearest tierViews ∅ {} ⟨"top"⟩ content hok
  exact ⟨content, views, hok, hlayout, hviews, hnearest⟩

end Viewpoint
