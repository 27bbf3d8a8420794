import RouteSurvey.Proofs.Files.Path
import RouteSurvey.Source.ModulePath

/-! # Modules of files

The module of a file follows from the names that lead from the root of the project to it. A
file in the directory of sources, and of another name than those that stand for a directory,
has a module of its own.
-/

namespace RouteSurvey.Source

open RouteSurvey.Path (IsPlain)

/-! ## Steps -/

theorem moduleName_append_extension (stem : String) : moduleName (stem ++ ".rs") = stem := by
  have hending : ".rs".toList = '.' :: extension.toList := by decide
  have hends : ('.' :: extension.toList).isSuffixOf
      (stem.toList ++ '.' :: extension.toList) = true :=
    List.isSuffixOf_iff_suffix.mpr (List.suffix_append _ _)
  simp only [moduleName, String.toList_append, hending]
  rw [if_pos hends, List.length_append, Nat.add_sub_cancel, List.take_left, String.ofList_toList]

theorem mapLast_concat (f : String → String) (names : List String) (last : String) :
    mapLast f (names ++ [last]) = names ++ [f last] := by
  induction names with
  | nil => rfl
  | cons name rest ih =>
      cases rest with
      | nil => rfl
      | cons second rest =>
          rw [List.cons_append, List.cons_append, mapLast]
          · exact congrArg (name :: ·) ih
          · exact fun hnil => nomatch hnil

/-- The source directory is left out where a module stands below it. A module of that name
that stands below nothing is lost. -/
theorem withoutSourceDirectory_concat {directories : List String} {last : String}
    (hbelow : directories ≠ [] ∨ last ≠ "src") :
    withoutSourceDirectory (directories ++ [last]) =
      (if directories.head? = some "src" then directories.tail else directories) ++ [last] := by
  cases directories with
  | nil => exact if_neg (hbelow.resolve_left (not_not_intro rfl))
  | cons first rest =>
      rw [List.cons_append, withoutSourceDirectory, List.head?_cons]
      have hsource : some first = some "src" ↔ first = sourceDirectory := Option.some_inj
      split
      next hfirst => rw [if_pos (hsource.mpr hfirst), List.tail_cons]
      next hfirst => rw [if_neg (mt hsource.mp hfirst), List.cons_append]

theorem withoutDirectoryModule_concat (names : List String) (last : String) :
    withoutDirectoryModule (names ++ [last]) =
      names ++ if last ∈ ["lib", "main", "mod"] then [] else [last] := by
  rw [withoutDirectoryModule, List.getLast?_concat, Option.any_some, List.dropLast_concat]
  have hmem : directoryModules.contains last = true ↔ last ∈ ["lib", "main", "mod"] :=
    List.contains_iff_mem
  split
  next hdirectory => rw [if_pos (hmem.mp hdirectory), List.append_nil]
  next hown => rw [if_neg (mt hmem.mpr hown)]

/-! ## Files below a root -/

theorem filterMap_componentName? (names : List String) :
    (names.map Path.Component.name).filterMap componentName? = names := by
  rw [List.filterMap_map]
  exact List.filterMap_some

/-- Only the names below the root count. -/
theorem modulePath_joinAll (root : Path) {names : List String}
    (hnames : ∀ name ∈ names, IsPlain name) :
    modulePath (root.joinAll names) root =
      withoutDirectoryModule (withoutSourceDirectory (mapLast moduleName names)) := by
  rw [modulePath, namesBelow, Path.below?_joinAll root hnames, Option.getD_some,
    filterMap_componentName?]

theorem modulePath_file (root : Path) {directories : List String} {stem : String}
    (hnames : ∀ name ∈ directories ++ [stem ++ ".rs"], IsPlain name)
    (hbelow : directories ≠ [] ∨ stem ≠ "src") :
    modulePath (root.joinAll (directories ++ [stem ++ ".rs"])) root =
      (if directories.head? = some "src" then directories.tail else directories) ++
        if stem ∈ ["lib", "main", "mod"] then [] else [stem] := by
  rw [modulePath_joinAll root hnames, mapLast_concat, moduleName_append_extension,
    withoutSourceDirectory_concat hbelow, withoutDirectoryModule_concat]

theorem modulePath_own_file (root : Path) {directories : List String} {stem : String}
    (hnames : ∀ name ∈ directories ++ [stem ++ ".rs"], IsPlain name)
    (hbelow : directories ≠ []) (hown : stem ∉ ["lib", "main", "mod"]) :
    modulePath (root.joinAll (directories ++ [stem ++ ".rs"])) root =
      (if directories.head? = some "src" then directories.tail else directories) ++ [stem] := by
  rw [modulePath_file root hnames (.inl hbelow), if_neg hown]

/-- A module can be written as a file of its name, or as a directory with a file `mod.rs`. -/
theorem modulePath_directory (root : Path) {directories : List String} {stem : String}
    (hnames : ∀ name ∈ directories ++ [stem ++ ".rs"], IsPlain name) (hstem : IsPlain stem)
    (hbelow : directories ≠ []) (hown : stem ∉ ["lib", "main", "mod"]) :
    modulePath (root.joinAll (directories ++ [stem, "mod.rs"])) root =
      modulePath (root.joinAll (directories ++ [stem ++ ".rs"])) root := by
  have hdirectory : directories ++ [stem, "mod.rs"] = (directories ++ [stem]) ++ ["mod" ++ ".rs"] :=
    (List.append_assoc directories [stem] ["mod.rs"]).symm
  have hinner : ∀ name ∈ (directories ++ [stem]) ++ ["mod" ++ ".rs"], IsPlain name := by
    simp only [List.forall_mem_append, List.forall_mem_singleton] at hnames ⊢
    exact ⟨⟨hnames.1, hstem⟩, by decide⟩
  have hmod : "mod" ∈ ["lib", "main", "mod"] := by decide
  rw [hdirectory, modulePath_file root hinner (.inl (by simp)), if_pos hmod, List.append_nil,
    modulePath_own_file root hnames hbelow hown]
  obtain ⟨first, rest, rfl⟩ := List.exists_cons_of_ne_nil hbelow
  rw [List.cons_append, List.head?_cons, List.head?_cons]
  split <;> rfl

/-- No two files in the source directory have one module, apart from those that stand for
their directory. -/
theorem modulePath_source_inj (root : Path) {directories directories' : List String}
    {stem stem' : String} (hnames : ∀ name ∈ directories ++ [stem ++ ".rs"], IsPlain name)
    (hnames' : ∀ name ∈ directories' ++ [stem' ++ ".rs"], IsPlain name)
    (hsource : directories.head? = some "src") (hsource' : directories'.head? = some "src")
    (hown : stem ∉ ["lib", "main", "mod"]) (hown' : stem' ∉ ["lib", "main", "mod"])
    (heq : modulePath (root.joinAll (directories ++ [stem ++ ".rs"])) root =
      modulePath (root.joinAll (directories' ++ [stem' ++ ".rs"])) root) :
    directories = directories' ∧ stem = stem' := by
  obtain ⟨rest, rfl⟩ := List.head?_eq_some_iff.mp hsource
  obtain ⟨rest', rfl⟩ := List.head?_eq_some_iff.mp hsource'
  rw [modulePath_own_file root hnames (List.cons_ne_nil _ _) hown,
    modulePath_own_file root hnames' (List.cons_ne_nil _ _) hown'] at heq
  obtain ⟨hrest, hstems⟩ := List.append_inj' heq rfl
  exact ⟨congrArg _ hrest, (List.cons.inj hstems).1⟩

/-- A file `src.rs` in the root is taken for the source directory. -/
theorem modulePath_source_file (root : Path) :
    modulePath (root.joinAll ["src.rs"]) root = [] := by
  rw [modulePath_joinAll root (by decide)]
  decide

/-- A file below the root is the module that the names of its directories lead to, without a
source directory at the beginning, and that is called like the file, unless the file stands
for its directory. The only exception is a file `src.rs` in the root itself. Where the root
lies has no influence, a module can be a file or a directory, and two files below the source
directory that stand for no directory are two modules. -/
theorem modulePath_follows_names (root : Path) {directories : List String} {stem : String}
    (hnames : ∀ name ∈ directories ++ [stem ++ ".rs"], IsPlain name) :
    (modulePath (root.joinAll (directories ++ [stem ++ ".rs"])) root =
        (if directories.head? = some "src" then directories.tail else directories) ++
          (if stem ∈ ["lib", "main", "mod"] then [] else [stem]) ↔
      directories ≠ [] ∨ stem ≠ "src") ∧
    (∀ root' : Path, modulePath (root'.joinAll (directories ++ [stem ++ ".rs"])) root' =
      modulePath (root.joinAll (directories ++ [stem ++ ".rs"])) root) ∧
    (IsPlain stem → directories ≠ [] → stem ∉ ["lib", "main", "mod"] →
      modulePath (root.joinAll (directories ++ [stem, "mod.rs"])) root =
        modulePath (root.joinAll (directories ++ [stem ++ ".rs"])) root) ∧
    (∀ (directories' : List String) (stem' : String),
      (∀ name ∈ directories' ++ [stem' ++ ".rs"], IsPlain name) →
      directories.head? = some "src" → directories'.head? = some "src" →
      stem ∉ ["lib", "main", "mod"] → stem' ∉ ["lib", "main", "mod"] →
      modulePath (root.joinAll (directories ++ [stem ++ ".rs"])) root =
        modulePath (root.joinAll (directories' ++ [stem' ++ ".rs"])) root →
          directories = directories' ∧ stem = stem') := by
  refine ⟨⟨fun hmodule => ?_, modulePath_file root hnames⟩, fun root' => ?_, ?_, ?_⟩
  · by_contra hsource
    rw [not_or, not_not, not_not] at hsource
    obtain ⟨rfl, rfl⟩ := hsource
    rw [List.nil_append] at hmodule
    exact absurd ((modulePath_source_file root).symm.trans hmodule) (by decide)
  · rw [modulePath_joinAll root hnames, modulePath_joinAll root' hnames]
  · exact modulePath_directory root hnames
  · intro directories' stem' hnames' hsource hsource' hown hown' heq
    exact modulePath_source_inj root hnames hnames' hsource hsource' hown hown' heq

/-- A module can be called `src` if it does not stand in the root. -/
theorem modulePath_follows_names_src :
    (∀ name ∈ ["src"] ++ ["src" ++ ".rs"], IsPlain name) ∧
      modulePath ⟨"/project/src/src.rs"⟩ ⟨"/project"⟩ = ["src"] ∧
      modulePath ⟨"/project/src/src/mod.rs"⟩ ⟨"/project"⟩ = ["src"] := by
  have hnames : ∀ name ∈ ["src"] ++ ["src" ++ ".rs"], IsPlain name := by decide
  obtain ⟨hfile, -, hdirectory, -⟩ := modulePath_follows_names ⟨"/project"⟩ hnames
  have hown := hfile.mpr (.inl (List.cons_ne_nil _ _))
  refine ⟨hnames, hown, ?_⟩
  exact (hdirectory (by decide) (List.cons_ne_nil _ _) (by decide)).trans hown

/-- In the root, a file `src.rs` is taken for the source directory: its module is that of the
root, which is the module of `lib.rs`, too. -/
theorem modulePath_src_in_root :
    (∀ name ∈ ([] : List String) ++ ["src" ++ ".rs"], IsPlain name) ∧
      "src" ∉ ["lib", "main", "mod"] ∧
      modulePath ((⟨"/project"⟩ : Path).joinAll ["src.rs"]) ⟨"/project"⟩ = [] ∧
      modulePath ((⟨"/project"⟩ : Path).joinAll ["lib.rs"]) ⟨"/project"⟩ = [] := by
  refine ⟨by decide, by decide, by decide +kernel, by decide +kernel⟩

end RouteSurvey.Source
