import Mathlib.Logic.Relation
import RouteSurvey.Source.Collection

/-! # Sites

A site is an item at its place in a project: in the module that its file is, or in a module
written inside the file. Listing an item and everything inside it, at any depth, gives every
site the walk through it reaches. The parts of a project are the parts of its sites.
-/

namespace RouteSurvey.Source

open Relation

/-- An item, and the names of the modules around it. -/
structure Site where
  modules : List String
  item : Item

/-- The second site stands directly inside the first. Only a module that is written out has
its own name for what is inside. -/
inductive Site.Holds : Site → Site → Prop where
  | inModule {modules : List String} {name : Ident} {items : List Item} {item : Item}
      (hmem : item ∈ items) : Holds ⟨modules, .module name items⟩ ⟨modules ++ [name.text], item⟩
  | inOther {modules : List String} {items : List Item} {item : Item}
      (hmem : item ∈ items) : Holds ⟨modules, .other items⟩ ⟨modules, item⟩

mutual

/-- An item and the items inside it, at their places. -/
def Item.sites (modules : List String) : Item → List Site
  | .module name items => ⟨modules, .module name items⟩ ::
      Item.sitesOfAll (modules ++ [name.text]) items
  | .struct attributes name fields => [⟨modules, .struct attributes name fields⟩]
  | .methods attributes self block => [⟨modules, .methods attributes self block⟩]
  | .other items => ⟨modules, .other items⟩ :: Item.sitesOfAll modules items

/-- Several items and the items inside them, at their places. -/
def Item.sitesOfAll (modules : List String) : List Item → List Site
  | [] => []
  | item :: rest => item.sites modules ++ Item.sitesOfAll modules rest

end

/-- The sites of a source file. -/
def SourceFile.sites (root : Path) (source : SourceFile) : List Site :=
  Item.sitesOfAll (modulePath source.path root) (source.file.header ++ source.file.items)

/-- The sites of the source files of a project. -/
def sitesOf (root : Path) (sources : List SourceFile) : List Site :=
  sources.flatMap (·.sites root)

/-- The walk through the source files of a project reaches a site. -/
def IsReached (root : Path) (sources : List SourceFile) (site : Site) : Prop :=
  ∃ source ∈ sources, ∃ item ∈ source.file.header ++ source.file.items,
    ReflTransGen Site.Holds ⟨modulePath source.path root, item⟩ site

/-! ## Every site that is reached is listed -/

section Listing

variable {modules : List String} {site : Site}

theorem Item.mem_sitesOfAll {items : List Item} :
    site ∈ Item.sitesOfAll modules items ↔ ∃ item ∈ items, site ∈ item.sites modules := by
  induction items with
  | nil => simp [Item.sitesOfAll]
  | cons item rest ih =>
      simp only [Item.sitesOfAll, List.mem_append, ih, List.mem_cons, exists_eq_or_imp]

theorem Item.self_mem_sites (item : Item) : ⟨modules, item⟩ ∈ item.sites modules := by
  cases item <;> exact List.mem_cons_self

/-- What the walk reaches is listed where the walk begins. -/
theorem Site.mem_sites_of_reaches {outer : Site} (hreaches : ReflTransGen Site.Holds outer site) :
    site ∈ outer.item.sites outer.modules := by
  -- The walk is followed from its end, so each step only has to pass the listing upwards.
  induction hreaches using ReflTransGen.head_induction_on with
  | refl => exact Item.self_mem_sites site.item
  | head hholds _ ih =>
      cases hholds with
      | inModule hinside =>
          exact List.mem_cons_of_mem _ (Item.mem_sitesOfAll.mpr ⟨_, hinside, ih⟩)
      | inOther hinside =>
          exact List.mem_cons_of_mem _ (Item.mem_sitesOfAll.mpr ⟨_, hinside, ih⟩)

mutual

theorem Item.reaches_of_mem_sites {modules : List String} {site : Site} (item : Item)
    (hmem : site ∈ item.sites modules) : ReflTransGen Site.Holds ⟨modules, item⟩ site := by
  cases item with
  | module name items =>
      rw [Item.sites, List.mem_cons] at hmem
      obtain rfl | hinside := hmem
      · exact .refl
      · obtain ⟨inner, hinner, hreaches⟩ := Item.reaches_of_mem_sitesOfAll items hinside
        exact .head (.inModule hinner) hreaches
  | struct attributes name fields =>
      rw [Item.sites, List.mem_singleton] at hmem
      rw [hmem]
  | methods attributes self block =>
      rw [Item.sites, List.mem_singleton] at hmem
      rw [hmem]
  | other items =>
      rw [Item.sites, List.mem_cons] at hmem
      obtain rfl | hinside := hmem
      · exact .refl
      · obtain ⟨inner, hinner, hreaches⟩ := Item.reaches_of_mem_sitesOfAll items hinside
        exact .head (.inOther hinner) hreaches

theorem Item.reaches_of_mem_sitesOfAll {modules : List String} {site : Site} (items : List Item)
    (hmem : site ∈ Item.sitesOfAll modules items) :
    ∃ item ∈ items, ReflTransGen Site.Holds ⟨modules, item⟩ site := by
  cases items with
  | nil => contradiction
  | cons item rest =>
      rw [Item.sitesOfAll, List.mem_append] at hmem
      obtain hhead | hrest := hmem
      · exact ⟨item, List.mem_cons_self, Item.reaches_of_mem_sites item hhead⟩
      · obtain ⟨inner, hinner, hreaches⟩ := Item.reaches_of_mem_sitesOfAll rest hrest
        exact ⟨inner, List.mem_cons_of_mem item hinner, hreaches⟩

end

/-- The sites listed with an item are those that the walk through it reaches. -/
theorem Item.mem_sites {item : Item} :
    site ∈ item.sites modules ↔ ReflTransGen Site.Holds ⟨modules, item⟩ site :=
  ⟨item.reaches_of_mem_sites, Site.mem_sites_of_reaches⟩

theorem mem_sitesOf {root : Path} {sources : List SourceFile} :
    site ∈ sitesOf root sources ↔ IsReached root sources site := by
  simp only [sitesOf, SourceFile.sites, IsReached, List.mem_flatMap, Item.mem_sitesOfAll,
    Item.mem_sites]

end Listing

/-! ## What a site declares -/

/-- The type is a path. A path has at least one segment. -/
def TypeExpr.isPath : TypeExpr → Bool
  | .path (_ :: _) _ => true
  | _ => false

namespace Site

/-- The functions of a block that implements a type without a trait, if the type is a path. -/
def functions (site : Site) : List MethodDecl :=
  match site.item with
  | .methods _ self block => if self.isPath then block else []
  | _ => []

/-- The attributes of a struct, or of a block that implements a path without a trait. -/
def attributes (site : Site) : List Attribute :=
  match site.item with
  | .struct attributes _ _ => attributes
  | .methods attributes self _ => if self.isPath then attributes else []
  | _ => []

/-- The parts that a site is, apart from those of the items inside it. -/
def parts (site : Site) : List Part :=
  match site.item with
  | .struct attributes name fields => [.ofStruct site.modules attributes name fields]
  | .methods attributes self block =>
      (Part.ofMethods? site.modules attributes self block).toList
  | _ => []

end Site

/-! ## The parts of sites -/

/-- Exactly the types that are paths name a class. -/
theorem isSome_targetName? (modules : List String) (self : TypeExpr) :
    (targetName? modules self).isSome = self.isPath := by
  cases self with
  | path segments args =>
      cases segments with
      | nil => rfl
      | cons first rest =>
          simp only [targetName?, TypeExpr.isPath]
          split <;> simp
  | reference target => rfl
  | paren inner => rfl
  | tuple types => rfl
  | hole => rfl
  | other => rfl

/-- A block for a path is a part with its attributes and functions; any other is none. -/
theorem Part.ofMethods?_cases (modules : List String) (attributes : List Attribute)
    (self : TypeExpr) (block : List MethodDecl) :
    (self.isPath = false ∧ Part.ofMethods? modules attributes self block = none) ∨
      (self.isPath = true ∧ ∃ part, Part.ofMethods? modules attributes self block = some part ∧
        part.markers = markersOf attributes ∧
        part.methods = block.map MethodDecl.declaration) := by
  rw [← isSome_targetName? modules self, Part.ofMethods?]
  cases targetName? modules self with
  | none => exact .inl ⟨rfl, rfl⟩
  | some className => exact .inr ⟨rfl, _, rfl, rfl, rfl⟩

namespace Site

variable (site : Site)

theorem methods_parts :
    site.parts.flatMap (·.methods) = site.functions.map MethodDecl.declaration := by
  obtain ⟨modules, item⟩ := site
  cases item with
  | module name items => rfl
  | struct attributes name fields => rfl
  | methods attributes self block =>
      obtain ⟨hpath, hpart⟩ | ⟨hpath, part, hpart, -, hmethods⟩ :=
        Part.ofMethods?_cases modules attributes self block
      · simp [parts, functions, hpath, hpart]
      · simp [parts, functions, hpath, hpart, hmethods]
  | other items => rfl

theorem markers_parts : site.parts.flatMap (·.markers) = markersOf site.attributes := by
  obtain ⟨modules, item⟩ := site
  cases item with
  | module name items => rfl
  | struct attributes name fields =>
      simp [parts, Site.attributes, Part.ofStruct]
  | methods attributes self block =>
      obtain ⟨hpath, hpart⟩ | ⟨hpath, part, hpart, hmarkers, -⟩ :=
        Part.ofMethods?_cases modules attributes self block
      · simp [parts, Site.attributes, hpath, hpart, markersOf]
      · simp [parts, Site.attributes, hpath, hpart, hmarkers]
  | other items => rfl

end Site

mutual

theorem Item.parts_eq_flatMap_sites (modules : List String) (item : Item) :
    item.parts modules = (item.sites modules).flatMap Site.parts := by
  cases item with
  | module name items =>
      rw [Item.parts, Item.sites, List.flatMap_cons, Item.partsOfAll_eq_flatMap_sites]
      rfl
  | struct attributes name fields => rfl
  | methods attributes self block =>
      rw [Item.parts, Item.sites, List.flatMap_singleton]
      rfl
  | other items =>
      rw [Item.parts, Item.sites, List.flatMap_cons, Item.partsOfAll_eq_flatMap_sites]
      rfl

theorem Item.partsOfAll_eq_flatMap_sites (modules : List String) (items : List Item) :
    Item.partsOfAll modules items = (Item.sitesOfAll modules items).flatMap Site.parts := by
  cases items with
  | nil => rfl
  | cons item rest =>
      rw [Item.partsOfAll, Item.sitesOfAll, List.flatMap_append, Item.parts_eq_flatMap_sites,
        Item.partsOfAll_eq_flatMap_sites]

end

/-- The parts of a project are the parts of its sites, in the order of the walk. -/
theorem partsOf_eq_flatMap_sites (root : Path) (sources : List SourceFile) :
    partsOf root sources = (sitesOf root sources).flatMap Site.parts := by
  rw [partsOf, sitesOf, List.flatMap_assoc]
  exact congrArg sources.flatMap (funext fun source => Item.partsOfAll_eq_flatMap_sites _ _)

end RouteSurvey.Source
