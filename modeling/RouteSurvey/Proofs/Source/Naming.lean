import RouteSurvey.Proofs.Source.Collection

/-! # Names of nested declarations

The name of a class leads from the root of the package through the module that the file is and
the modules written around the declaration. A walk can keep these modules in one list, to
which it adds the name of a module where it enters it and from which it takes the last name
where it leaves. Whatever has been walked through before, the list is then the one that the
next declaration needs.
-/

namespace RouteSurvey.Source

/-! ## Walking with a list of modules -/

/-- What a walk carries along. -/
structure Walker where
  /-- The names of the modules around the item to which the walk has come -/
  modules : List String
  /-- The parts it has come across -/
  found : List Part

namespace Walker

/-- The walk goes into a module. -/
def enter (name : String) (walker : Walker) : Walker :=
  { walker with modules := walker.modules ++ [name] }

/-- The walk leaves the module it has entered last. -/
def leave (walker : Walker) : Walker :=
  { walker with modules := walker.modules.dropLast }

/-- The walk comes across parts whose names depend on the modules around. -/
def note (parts : List String → List Part) (walker : Walker) : Walker :=
  { walker with found := walker.found ++ parts walker.modules }

end Walker

mutual

/-- Walks through an item. -/
def Item.walk : Item → Walker → Walker
  | .module name items, walker => (Item.walkAll items (walker.enter name.text)).leave
  | .struct attributes name fields, walker =>
      walker.note fun modules => [.ofStruct modules attributes name fields]
  | .methods attributes self block, walker =>
      walker.note fun modules => (Part.ofMethods? modules attributes self block).toList
  | .other items, walker => Item.walkAll items walker

/-- Walks through several items, one after the other. -/
def Item.walkAll : List Item → Walker → Walker
  | [], walker => walker
  | item :: rest, walker => Item.walkAll rest (item.walk walker)

end

/-- Walks through a file. The modules of the file before are forgotten. -/
def SourceFile.walk (root : Path) (walker : Walker) (source : SourceFile) : Walker :=
  Item.walkAll (source.file.header ++ source.file.items)
    { walker with modules := modulePath source.path root }

/-- A stretch of a walk comes across some parts, and ends with the modules it began with. -/
structure Walker.Finds (before after : Walker) (parts : List Part) : Prop where
  modules : after.modules = before.modules
  found : after.found = before.found ++ parts

namespace Walker.Finds

variable {first second third : Walker} {parts others : List Part}

theorem refl (walker : Walker) : Finds walker walker [] :=
  ⟨rfl, (List.append_nil _).symm⟩

theorem trans (hfirst : Finds first second parts) (hsecond : Finds second third others) :
    Finds first third (parts ++ others) where
  modules := hsecond.modules.trans hfirst.modules
  found := by rw [hsecond.found, hfirst.found, List.append_assoc]

theorem note (ofModules : List String → List Part) (walker : Walker) :
    Finds walker (walker.note ofModules) (ofModules walker.modules) :=
  ⟨rfl, rfl⟩

/-- Only the module that was entered is taken from the list again. -/
theorem within {name : String} (hinside : Finds (first.enter name) second parts) :
    Finds first second.leave parts where
  modules := by
    rw [Walker.leave, hinside.modules, Walker.enter]
    exact List.dropLast_concat
  found := hinside.found

end Walker.Finds

mutual

theorem Item.walk_finds (item : Item) (walker : Walker) :
    walker.Finds (item.walk walker) (item.parts walker.modules) := by
  cases item with
  | module name items =>
      rw [Item.walk, Item.parts]
      exact (Item.walkAll_finds items (walker.enter name.text)).within
  | struct attributes name fields =>
      rw [Item.walk, Item.parts]
      exact .note _ walker
  | methods attributes self block =>
      rw [Item.walk, Item.parts]
      exact .note _ walker
  | other items =>
      rw [Item.walk, Item.parts]
      exact Item.walkAll_finds items walker

theorem Item.walkAll_finds (items : List Item) (walker : Walker) :
    walker.Finds (Item.walkAll items walker) (Item.partsOfAll walker.modules items) := by
  cases items with
  | nil =>
      rw [Item.walkAll, Item.partsOfAll]
      exact .refl walker
  | cons item rest =>
      rw [Item.walkAll, Item.partsOfAll]
      have hitem := Item.walk_finds item walker
      have hrest := Item.walkAll_finds rest (item.walk walker)
      -- The rest is walked through with the modules that were around the item.
      rw [hitem.modules] at hrest
      exact hitem.trans hrest

end

theorem foldl_walk_found (root : Path) (sources : List SourceFile) (walker : Walker) :
    (sources.foldl (SourceFile.walk root) walker).found =
      walker.found ++ partsOf root sources := by
  induction sources generalizing walker with
  | nil => exact (List.append_nil _).symm
  | cons source rest ih =>
      have hsource : (source.walk root walker).found = walker.found ++ source.parts root :=
        (Item.walkAll_finds _ _).found
      rw [List.foldl_cons, ih, hsource, partsOf, partsOf, List.flatMap_cons, List.append_assoc]

/-! ## Declarations under modules -/

/-- One item stands in another, under the modules of the given names from outside in. What
else is around it, such as the body of a function, has no name. -/
inductive Item.Encloses : Item → List Ident → Item → Prop where
  | here {item : Item} : Encloses item [] item
  | inModule {name : Ident} {items : List Item} {item inner : Item} {names : List Ident}
      (hmem : item ∈ items) (hinner : Encloses item names inner) :
      Encloses (.module name items) (name :: names) inner
  | inOther {items : List Item} {item inner : Item} {names : List Ident}
      (hmem : item ∈ items) (hinner : Encloses item names inner) :
      Encloses (.other items) names inner

open Relation in
theorem Item.Encloses.reaches {item inner : Item} {names : List Ident}
    (hinner : item.Encloses names inner) (modules : List String) :
    ReflTransGen Site.Holds ⟨modules, item⟩ ⟨modules ++ names.map Ident.text, inner⟩ := by
  induction hinner generalizing modules with
  | here =>
      rw [List.map_nil, List.append_nil]
  | @inModule name _ _ _ names hmem _ ih =>
      have hinside := ih (modules ++ [name.text])
      rw [List.append_assoc] at hinside
      exact .head (.inModule hmem) hinside
  | inOther hmem _ ih => exact .head (.inOther hmem) (ih modules)

theorem isReached_of_encloses {root : Path} {sources : List SourceFile} {source : SourceFile}
    {item inner : Item} {names : List Ident} (hsource : source ∈ sources)
    (hitem : item ∈ source.file.header ++ source.file.items)
    (hinner : item.Encloses names inner) :
    IsReached root sources ⟨modulePath source.path root ++ names.map Ident.text, inner⟩ :=
  ⟨source, hsource, item, hitem, hinner.reaches _⟩

/-! ## What a part contributes -/

/-- All that a part holds is in the class of its name, in one piece and in order. Of several
superclasses the first one counts. -/
structure Contributes (part : Part) (owner : Declaration.Class) : Prop where
  name : owner.name = part.className
  markers : part.markers <:+: owner.markers
  fields : part.fields <:+: owner.fields
  methods : part.methods <:+: owner.methods
  superclass : part.superclass?.isSome → owner.superclass?.isSome

theorem infix_flatMap_of_mem {α β : Type} (f : α → List β) {item : α} {items : List α}
    (hmem : item ∈ items) : f item <:+: items.flatMap f := by
  rw [List.flatMap_def]
  exact List.infix_of_mem_flatten (List.mem_map_of_mem hmem)

theorem contributes_assemble {part : Part} {parts : List Part} (hpart : part ∈ parts) :
    Contributes part (assemble part.className parts) where
  name := rfl
  markers := infix_flatMap_of_mem (·.markers) hpart
  fields := infix_flatMap_of_mem (·.fields) hpart
  methods := infix_flatMap_of_mem (·.methods) hpart
  superclass := by
    intro hsome
    obtain ⟨type, htype⟩ := Option.isSome_iff_exists.mp hsome
    exact List.findSome?_isSome_iff.mpr ⟨part, hpart, by rw [htype]; rfl⟩

theorem exists_contributes {part : Part} {parts : List Part} (hpart : part ∈ parts) :
    ∃ owner ∈ classesOf parts, Contributes part owner := by
  refine ⟨_, List.mem_map_of_mem (mem_classNames.mpr ⟨part, hpart, rfl⟩), ?_⟩
  exact contributes_assemble (List.mem_filter.mpr ⟨hpart, beq_self_eq_true _⟩)

/-- What is merged into a class comes behind what it has. -/
theorem Contributes.absorb {part : Part} {owner : Declaration.Class}
    (hpart : Contributes part owner) (blocks : List Declaration.Class) :
    Contributes part (absorb owner blocks) where
  name := hpart.name
  markers := hpart.markers.trans (List.prefix_append _ _).isInfix
  fields := hpart.fields
  methods := hpart.methods.trans (List.prefix_append _ _).isInfix
  superclass := hpart.superclass

theorem exists_contributes_of_struct {part : Part} {parts : List Part} (hpart : part ∈ parts)
    (hstruct : part.isStruct) : ∃ owner ∈ (treeOfParts parts).classes, Contributes part owner := by
  obtain ⟨owner, howner, hcontributes⟩ := exists_contributes hpart
  have hbacked : owner.name ∈ structNames parts := by
    rw [hcontributes.name]
    exact List.mem_map_of_mem (List.mem_filter.mpr ⟨hpart, hstruct⟩)
  rw [treeOfParts, attachDetached_eq_map]
  exact ⟨_, List.mem_map_of_mem (mem_keptClasses_of_struct howner hbacked),
    hcontributes.absorb _⟩

/-! ## Names through nesting -/

theorem Part.ofMethods?_single (modules : List String) (attributes : List Attribute) (name : Ident)
    (args : List TypeExpr) (block : List MethodDecl) :
    ∃ part, Part.ofMethods? modules attributes (.path [name] args) block = some part ∧
      part.className = qualify modules name.text ∧ part.markers = markersOf attributes ∧
      part.methods = block.map MethodDecl.declaration := by
  have htarget : targetName? modules (.path [name] args) = some (qualify modules name.text) := by
    rw [targetName?, if_neg fun hroot => absurd hroot.2 (Nat.lt_irrefl 1)]
    rfl
  rw [Part.ofMethods?, htarget]
  exact ⟨_, rfl, rfl, rfl, rfl⟩

section Project

variable {root : Path} {sources : List SourceFile} {modules : List String}
  {attributes : List Attribute} {name : Ident}

theorem exists_contributes_struct {fields : List FieldDecl}
    (hreached : IsReached root sources ⟨modules, .struct attributes name fields⟩)
    {classes : List Declaration.Class}
    (hclasses : classes = classesOf (partsOf root sources) ∨
      classes = (collect root sources).classes) :
    ∃ owner ∈ classes, Contributes (.ofStruct modules attributes name fields) owner := by
  have hpart := ofStruct_mem_partsOf root sources hreached
  obtain rfl | rfl := hclasses
  · exact exists_contributes hpart
  · exact exists_contributes_of_struct hpart rfl

theorem exists_contributes_methods {args : List TypeExpr} {block : List MethodDecl}
    (hreached : IsReached root sources
      ⟨modules, .methods attributes (.path [name] args) block⟩) :
    ∃ owner ∈ classesOf (partsOf root sources), owner.name = qualify modules name.text ∧
      markersOf attributes <:+: owner.markers ∧
      block.map MethodDecl.declaration <:+: owner.methods := by
  obtain ⟨part, hpart, hname, hmarkers, hmethods⟩ :=
    Part.ofMethods?_single modules attributes name args block
  have hmem : part ∈ partsOf root sources := by
    rw [partsOf_eq_flatMap_sites]
    exact List.mem_flatMap.mpr ⟨_, mem_sitesOf.mpr hreached, Option.mem_toList.mpr hpart⟩
  obtain ⟨owner, howner, hcontributes⟩ := exists_contributes hmem
  refine ⟨owner, howner, hcontributes.name.trans hname, ?_, ?_⟩
  · rw [← hmarkers]
    exact hcontributes.markers
  · rw [← hmethods]
    exact hcontributes.methods

/-- A walk leaves every module that it enters, so what it comes across in some items or files
does not depend on what it has walked through before. A struct that stands under some modules
of a file contributes to the class that is named by the path from the root of the package,
through the module of the file and the modules around, to the struct. So does a block of
methods for a single name, before detached classes are merged. -/
theorem names_follow_modules (root : Path) (sources : List SourceFile) :
    (∀ items walker, (Item.walkAll items walker).modules = walker.modules ∧
      (Item.walkAll items walker).found =
        walker.found ++ Item.partsOfAll walker.modules items) ∧
    (∀ walker, (sources.foldl (SourceFile.walk root) walker).found =
      walker.found ++ partsOf root sources) ∧
    ∀ source ∈ sources, ∀ item ∈ source.file.header ++ source.file.items,
      ∀ (names : List Ident) (inner : Item), item.Encloses names inner →
        (∀ attributes name fields, inner = .struct attributes name fields →
          ∀ classes, classes = classesOf (partsOf root sources) ∨
            classes = (collect root sources).classes →
              ∃ owner ∈ classes,
                owner.name = "::".intercalate ("crate" ::
                  (modulePath source.path root ++ names.map Ident.text) ++ [name.text]) ∧
                markersOf attributes <:+: owner.markers ∧
                dataFields fields <:+: owner.fields ∧
                ((superclassOf? fields).isSome → owner.superclass?.isSome)) ∧
        (∀ attributes name args block, inner = .methods attributes (.path [name] args) block →
          ∃ owner ∈ classesOf (partsOf root sources),
            owner.name = "::".intercalate ("crate" ::
              (modulePath source.path root ++ names.map Ident.text) ++ [name.text]) ∧
            markersOf attributes <:+: owner.markers ∧
            block.map MethodDecl.declaration <:+: owner.methods) := by
  refine ⟨?_, foldl_walk_found root sources, ?_⟩
  · intro items walker
    have hwalk := Item.walkAll_finds items walker
    exact ⟨hwalk.modules, hwalk.found⟩
  · intro source hsource item hitem names inner hinner
    have hreached : IsReached root sources
        ⟨modulePath source.path root ++ names.map Ident.text, inner⟩ :=
      isReached_of_encloses hsource hitem hinner
    constructor
    · rintro attributes name fields rfl classes hclasses
      obtain ⟨owner, howner, hpart⟩ := exists_contributes_struct hreached hclasses
      exact ⟨owner, howner, hpart.name, hpart.markers, hpart.fields, hpart.superclass⟩
    · rintro attributes name args block rfl
      exact exists_contributes_methods hreached

end Project

/-! ## A struct in a function in two modules -/

namespace Nested

def typeName : Ident := ⟨"Account", by decide⟩

/-- A struct with one field, and a block of methods beside it. -/
def declarations : List Item :=
  [.struct [] typeName
      [{ attributes := [], name := ⟨"number", by decide⟩, type := .path [⟨"u32", by decide⟩] [] }],
    .methods [] (.path [typeName] [])
      [{ attributes := [], name := ⟨"find", by decide⟩, arguments := [.receiver],
         output? := none }]]

/-- A module `v1` with a module of its own, and with a function that has a module `v2` in its
body. -/
def outer : Item :=
  .module ⟨"v1", by decide⟩ [.module ⟨"old", by decide⟩ [],
    .other [.module ⟨"v2", by decide⟩ declarations]]

def source : SourceFile where
  path := ⟨"src/api/accounts.rs"⟩
  file := ⟨[], [outer]⟩

theorem encloses_of_mem {item : Item} (hitem : item ∈ declarations) :
    outer.Encloses [⟨"v1", by decide⟩, ⟨"v2", by decide⟩] item :=
  .inModule (List.mem_cons_of_mem _ List.mem_cons_self)
    (.inOther List.mem_cons_self (.inModule hitem .here))

end Nested

open Nested in
/-- The struct and the block are found under the modules `api`, `accounts`, `v1` and `v2`. -/
theorem names_follow_modules_nested :
    modulePath source.path ⟨""⟩ = ["api", "accounts"] ∧
    (∃ owner ∈ (collect ⟨""⟩ [source]).classes,
      owner.name = "crate::api::accounts::v1::v2::Account" ∧ owner.fields ≠ []) ∧
    ∃ owner ∈ classesOf (partsOf ⟨""⟩ [source]),
      owner.name = "crate::api::accounts::v1::v2::Account" ∧ owner.methods ≠ [] := by
  have hroot : modulePath source.path ⟨""⟩ = ["api", "accounts"] := by decide +kernel
  obtain ⟨-, -, hnested⟩ := names_follow_modules ⟨""⟩ [source]
  have hdeclared := hnested source (List.mem_singleton_self _) outer (List.mem_singleton_self _)
  rw [hroot] at hdeclared
  refine ⟨hroot, ?_, ?_⟩
  · obtain ⟨hstruct, -⟩ := hdeclared _ _ (encloses_of_mem List.mem_cons_self)
    obtain ⟨owner, howner, hname, -, hfields, -⟩ := hstruct _ _ _ rfl _ (.inr rfl)
    refine ⟨owner, howner, hname, ?_⟩
    intro hnone
    rw [hnone] at hfields
    exact absurd (List.infix_nil.mp hfields) (List.cons_ne_nil _ _)
  · obtain ⟨-, hmethods⟩ :=
      hdeclared _ _ (encloses_of_mem (List.mem_cons_of_mem _ List.mem_cons_self))
    obtain ⟨owner, howner, hname, -, hblock⟩ := hmethods _ _ _ _ rfl
    refine ⟨owner, howner, hname, ?_⟩
    intro hnone
    rw [hnone] at hblock
    exact absurd (List.infix_nil.mp hblock) (List.cons_ne_nil _ _)

end RouteSurvey.Source
