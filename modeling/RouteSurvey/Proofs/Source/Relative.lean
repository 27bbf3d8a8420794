import RouteSurvey.Proofs.Source.Collection
import RouteSurvey.Proofs.Source.Homes

/-! # Blocks for types of other modules

A block of methods may name its type by a path that starts at its own module. Of such a path
only the last segment counts. If one struct has that name, the block ends up there; if
several have it and none of them stands in the block's own module, the block stays a class
of its own.
-/

namespace RouteSurvey.Source

/-! ## Names of types -/

theorem isIdentPart_dot : isIdentPart '.' = false := by decide

theorem isIdentPart_colon : isIdentPart ':' = false := by decide

theorem Ident.isPlainWord (name : Ident) : Name.IsPlainWord name.text.toList := by
  have hvalid := List.all_eq_true.mp name.valid
  constructor
  · intro hdot
    exact absurd (hvalid _ hdot) (by simp [isIdentPart_dot])
  · intro hcolon
    exact absurd (hvalid _ hcolon) (by simp [isIdentPart_colon])

theorem simpleName_qualify (modules : List String) (name : Ident) :
    simpleName (qualify modules name.text) = name.text := by
  rw [qualify, pathText, String.intercalate_append_of_ne_nil (List.cons_ne_nil _ _)
    (List.cons_ne_nil _ _)]
  exact simpleName_append_colons _ name.isPlainWord

/-! ## Homes of sites -/

theorem Site.parts_cases (site : Site) : site.parts = [] ∨ ∃ part, site.parts = [part] := by
  obtain ⟨modules, item⟩ := site
  cases item with
  | module name items => exact .inl rfl
  | struct attributes name fields => exact .inr ⟨_, rfl⟩
  | methods attributes self block =>
      cases hpart : Part.ofMethods? modules attributes self block with
      | none => exact .inl (by simp [Site.parts, hpart])
      | some part => exact .inr ⟨part, by simp [Site.parts, hpart]⟩
  | other items => exact .inl rfl

section Project

variable (root : Path) (sources : List SourceFile)

/-- The class of the tree in which the functions of a site end up. -/
def homeOfSite (site : Site) : Option String :=
  site.parts.head?.map fun part => homeOf (partsOf root sources) part.className

/-- The class has a struct. -/
def IsStructClass (name : String) : Prop :=
  ∃ modules attributes ident fields,
    IsReached root sources ⟨modules, .struct attributes ident fields⟩ ∧
      qualify modules ident.text = name

variable {root sources}

theorem mem_structNames_partsOf {name : String} :
    name ∈ structNames (partsOf root sources) ↔ IsStructClass root sources name := by
  rw [mem_structNames]
  constructor
  · rintro ⟨part, hpart, hstruct, rfl⟩
    rw [partsOf_eq_flatMap_sites] at hpart
    obtain ⟨⟨modules, item⟩, hsite, hpart⟩ := List.mem_flatMap.mp hpart
    cases item with
    | module name items => contradiction
    | struct attributes ident fields =>
        rw [Site.parts, List.mem_singleton] at hpart
        exact ⟨modules, attributes, ident, fields, mem_sitesOf.mp hsite, by rw [hpart]; rfl⟩
    | methods attributes self block =>
        rw [Site.parts, Option.mem_toList, Part.ofMethods?] at hpart
        obtain ⟨className, -, rfl⟩ := Option.map_eq_some_iff.mp hpart
        contradiction
    | other items => contradiction
  · rintro ⟨modules, attributes, ident, fields, hreached, rfl⟩
    exact ⟨_, ofStruct_mem_partsOf root sources hreached, rfl, rfl⟩

theorem methods_at_home (name : String) (sites : List Site) :
    ((sites.flatMap Site.parts).filter fun part =>
        homeOf (partsOf root sources) part.className == name).flatMap (·.methods) =
      ((sites.filter fun site => homeOfSite root sources site == some name).flatMap
        Site.functions).map MethodDecl.declaration := by
  induction sites with
  | nil => rfl
  | cons site rest ih =>
      rw [List.flatMap_cons, List.filter_append, List.flatMap_append, ih]
      obtain hparts | ⟨part, hparts⟩ := site.parts_cases
      · have haway : homeOfSite root sources site = none := by rw [homeOfSite, hparts]; rfl
        simp [hparts, haway]
      · have hhome : homeOfSite root sources site =
            some (homeOf (partsOf root sources) part.className) := by
          rw [homeOfSite, hparts]
          rfl
        have hfunctions : part.methods = site.functions.map MethodDecl.declaration := by
          rw [← site.methods_parts, hparts, List.flatMap_singleton]
        by_cases hname : homeOf (partsOf root sources) part.className = name
        · simp [hparts, hhome, hname, hfunctions]
        · simp [hparts, hhome, hname]

/-- A class of the tree has the functions of the sites that have their home there. -/
theorem collect_class_methods_perm {owner : Declaration.Class}
    (howner : owner ∈ (collect root sources).classes) :
    owner.methods.Perm ((((sitesOf root sources).filter fun site =>
      homeOfSite root sources site == some owner.name).flatMap Site.functions).map
        MethodDecl.declaration) := by
  have hperm := treeOfParts_class_perm (·.methods) (·.methods) (fun _ _ => rfl)
    (fun _ _ => rfl) howner
  refine hperm.trans (List.Perm.of_eq ?_)
  rw [← methods_at_home, ← partsOf_eq_flatMap_sites]

/-! ## Blocks for paths -/

/-- The path of a type starts at the module it is written in, and has several segments. -/
def IsRelativePath (segments : List Ident) : Prop :=
  2 ≤ segments.length ∧ segments.head?.map Ident.text ≠ some packageName

/-- Of a path that does not start at the package's root the last segment counts. -/
theorem targetName?_of_isRelativePath {modules : List String} {segments : List Ident}
    {args : List TypeExpr} {last : Ident} (hrelative : IsRelativePath segments)
    (hlast : segments.getLast? = some last) :
    targetName? modules (.path segments args) = some (qualify modules last.text) := by
  have hhead : (segments.map Ident.text).head? ≠ some packageName := by
    rw [List.head?_map]
    exact hrelative.2
  rw [targetName?, if_neg fun hroot => hhead hroot.1, List.getLast?_map, hlast]
  rfl

variable {modules : List String} {attributes : List Attribute} {segments : List Ident}
  {args : List TypeExpr} {block : List MethodDecl} {last : Ident}

theorem homeOfSite_of_isRelativePath (hrelative : IsRelativePath segments)
    (hlast : segments.getLast? = some last) :
    homeOfSite root sources ⟨modules, .methods attributes (.path segments args) block⟩ =
      some (homeOf (partsOf root sources) (qualify modules last.text)) := by
  simp only [homeOfSite, Site.parts, Part.ofMethods?,
    targetName?_of_isRelativePath hrelative hlast]
  rfl

theorem exists_class_of_homeOfSite {site : Site} (hreached : IsReached root sources site)
    {name : String} (hhome : homeOfSite root sources site = some name) :
    ∃ owner ∈ (collect root sources).classes, owner.name = name := by
  obtain ⟨part, hpart, rfl⟩ := Option.map_eq_some_iff.mp hhome
  refine exists_class_at_home ?_
  rw [partsOf_eq_flatMap_sites]
  exact List.mem_flatMap.mpr ⟨site, mem_sitesOf.mpr hreached, List.mem_of_head? hpart⟩

/-- A block for a relative path ends up in one class of the tree, and each class has just the
functions that end up there. If exactly one struct has the name in the last segment, the
class is that of the struct. If several have it, and none of them is declared in the module
of the block, the class is one without a struct. -/
theorem relative_block_home
    (hreached : IsReached root sources
      ⟨modules, .methods attributes (.path segments args) block⟩)
    (hrelative : IsRelativePath segments) (hlast : segments.getLast? = some last) :
    (∀ owner ∈ (collect root sources).classes,
      owner.methods.Perm ((((sitesOf root sources).filter fun site =>
        homeOfSite root sources site == some owner.name).flatMap Site.functions).map
          MethodDecl.declaration)) ∧
    ∃ home ∈ (collect root sources).classes,
      homeOfSite root sources ⟨modules, .methods attributes (.path segments args) block⟩ =
        some home.name ∧
      (∀ target, IsStructClass root sources target → simpleName target = last.text →
        (∀ other, IsStructClass root sources other → simpleName other = last.text →
          other = target) → home.name = target) ∧
      (∀ first second, IsStructClass root sources first → simpleName first = last.text →
        IsStructClass root sources second → simpleName second = last.text → first ≠ second →
          ¬ IsStructClass root sources (qualify modules last.text) →
            ¬ IsStructClass root sources home.name) := by
  have hsite :
      homeOfSite root sources ⟨modules, .methods attributes (.path segments args) block⟩ =
        some (homeOf (partsOf root sources) (qualify modules last.text)) :=
    homeOfSite_of_isRelativePath hrelative hlast
  obtain ⟨home, hhome, hname⟩ := exists_class_of_homeOfSite hreached hsite
  have hsimple := simpleName_qualify modules last
  refine ⟨fun owner => collect_class_methods_perm, home, hhome, by rw [hsite, hname], ?_, ?_⟩
  · intro target htarget htargetName hunique
    rw [hname]
    refine homeOf_of_isOnlyStruct ⟨mem_structNames_partsOf.mpr htarget, ?_⟩
      (hsimple.trans htargetName.symm)
    intro other hother hotherName
    exact hunique other (mem_structNames_partsOf.mp hother) (hotherName.trans htargetName)
  · intro first second hfirst hfirstName hsecond hsecondName hne hown
    have hstays := homeOf_of_several (mt mem_structNames_partsOf.mp hown)
      (mem_structNames_partsOf.mpr hfirst) (mem_structNames_partsOf.mpr hsecond) hne
      (hfirstName.trans hsimple.symm) (hsecondName.trans hsimple.symm)
    rw [hname, hstays]
    exact hown

end Project

/-! ## A name that two structs share -/

namespace SharedName

def typeName : Ident := ⟨"T", by decide⟩

/-- The path `super::T`. -/
def outerPath : List Ident := [⟨"super", by decide⟩, typeName]

/-- A block for `super::T` with one method. -/
def blockWith (method : Ident) : Item :=
  .methods [] (.path outerPath [])
    [{ attributes := [], name := method, arguments := [.receiver], output? := none }]

/-- The struct in the module `a::b`, and a block for `super::T` beside it. -/
def inner : Item :=
  .module ⟨"b", by decide⟩ [.struct [] typeName [], blockWith ⟨"x", by decide⟩]

/-- A module `a::c` that has only a block for `super::T`. -/
def other : Item :=
  .module ⟨"c", by decide⟩ [blockWith ⟨"y", by decide⟩]

/-- A file with a struct `T` in the module `a` and another one in `a::b`. -/
def source : SourceFile where
  path := ⟨"src/lib.rs"⟩
  file := ⟨[], [.module ⟨"a", by decide⟩ [.struct [] typeName [], inner, other]]⟩

theorem isRelativePath_outerPath : IsRelativePath outerPath :=
  ⟨Nat.le_refl 2, by decide⟩

theorem getLast?_outerPath : outerPath.getLast? = some typeName :=
  rfl

theorem isReached_of_mem {site : Site}
    (hsite : site ∈ Item.sitesOfAll ["a"] [.struct [] typeName [], inner, other]) :
    IsReached ⟨""⟩ [source] site := by
  have hroot : modulePath source.path ⟨""⟩ = [] := by decide +kernel
  refine mem_sitesOf.mp ?_
  rw [sitesOf, List.flatMap_singleton, SourceFile.sites, hroot]
  exact List.mem_append_left _ (List.mem_cons_of_mem _ hsite)

theorem isStructClass_outer : IsStructClass ⟨""⟩ [source] "crate::a::T" :=
  ⟨["a"], [], typeName, [], isReached_of_mem (by simp [Item.sitesOfAll, Item.sites]), by decide⟩

theorem isStructClass_inner : IsStructClass ⟨""⟩ [source] "crate::a::b::T" :=
  ⟨["a", "b"], [], typeName, [],
    isReached_of_mem (by simp [Item.sitesOfAll, Item.sites, inner]), by decide⟩

theorem isReached_blockIn_b : IsReached ⟨""⟩ [source] ⟨["a", "b"], blockWith ⟨"x", by decide⟩⟩ :=
  isReached_of_mem (by simp [Item.sitesOfAll, Item.sites, inner, blockWith])

theorem isReached_blockIn_c : IsReached ⟨""⟩ [source] ⟨["a", "c"], blockWith ⟨"y", by decide⟩⟩ :=
  isReached_of_mem (by simp [Item.sitesOfAll, Item.sites, inner, other, blockWith])

end SharedName

open SharedName in
/-- Two structs are called `T`, and the block in `a::c` ends up with neither of them. -/
theorem relative_block_home_of_shared_name :
    IsReached ⟨""⟩ [source] ⟨["a", "c"], blockWith ⟨"y", by decide⟩⟩ ∧
    IsRelativePath outerPath ∧ outerPath.getLast? = some typeName ∧
    ∃ home ∈ (collect ⟨""⟩ [source]).classes,
      homeOfSite ⟨""⟩ [source] ⟨["a", "c"], blockWith ⟨"y", by decide⟩⟩ = some home.name ∧
        ¬ IsStructClass ⟨""⟩ [source] home.name := by
  obtain ⟨-, home, hhome, hsite, -, hseveral⟩ :=
    relative_block_home isReached_blockIn_c isRelativePath_outerPath getLast?_outerPath
  have hown : ¬ IsStructClass ⟨""⟩ [source] "crate::a::c::T" :=
    mt mem_structNames_partsOf.mpr (by decide +kernel)
  refine ⟨isReached_blockIn_c, isRelativePath_outerPath, rfl, home, hhome, hsite, ?_⟩
  exact hseveral _ _ isStructClass_outer (by decide) isStructClass_inner (by decide)
    (by decide) hown

open SharedName in
/-- The block for `super::T` in `a::b` ends up with the struct of `a::b`, although another
struct is called `T`, too. -/
theorem relative_block_in_struct_of_own_module :
    IsReached ⟨""⟩ [source] ⟨["a", "b"], blockWith ⟨"x", by decide⟩⟩ ∧
    IsRelativePath outerPath ∧ outerPath.getLast? = some typeName ∧
    IsStructClass ⟨""⟩ [source] "crate::a::T" ∧ simpleName "crate::a::T" = typeName.text ∧
    IsStructClass ⟨""⟩ [source] "crate::a::b::T" ∧
    simpleName "crate::a::b::T" = typeName.text ∧
    homeOfSite ⟨""⟩ [source] ⟨["a", "b"], blockWith ⟨"x", by decide⟩⟩ =
      some "crate::a::b::T" := by
  refine ⟨isReached_blockIn_b, isRelativePath_outerPath, rfl, isStructClass_outer, by decide,
    isStructClass_inner, by decide, ?_⟩
  rw [blockWith, homeOfSite_of_isRelativePath isRelativePath_outerPath getLast?_outerPath]
  exact congrArg some (homeOf_of_struct (mem_structNames_partsOf.mpr isStructClass_inner))

end RouteSurvey.Source
