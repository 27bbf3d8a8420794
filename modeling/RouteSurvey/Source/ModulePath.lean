import RouteSurvey.Files.Path

/-! # Module paths

The module that a source file is follows from where it lies below the root of its project.
-/

namespace RouteSurvey.Source

/-- The extension of source files. -/
def extension : String := "rs"

/-- The directory that holds the modules of a project, and is none itself. -/
def sourceDirectory : String := "src"

/-- The file names that stand for the module of their directory. -/
def directoryModules : List String := ["lib", "main", "mod"]

/-- A file name without the extension of source files. -/
def moduleName (fileName : String) : String :=
  let cs := fileName.toList
  let ending := '.' :: extension.toList
  if ending.isSuffixOf cs then String.ofList (cs.take (cs.length - ending.length)) else fileName

/-- Applies a function to the last of some names. -/
def mapLast (f : String → String) : List String → List String
  | [] => []
  | [name] => [f name]
  | name :: rest => name :: mapLast f rest

/-- The name that a component gives to a module. -/
def componentName? : Path.Component → Option String
  | .root => none
  | component => some component.text

/-- The names from the root of a project to a file; all of them if it lies elsewhere. -/
def namesBelow (file root : Path) : List String :=
  ((file.below? root).getD file.components).filterMap componentName?

/-- The names without a leading source directory. -/
def withoutSourceDirectory : List String → List String
  | name :: rest => if name = sourceDirectory then rest else name :: rest
  | [] => []

/-- The names without a last one that stands for the module of its directory. -/
def withoutDirectoryModule (names : List String) : List String :=
  if names.getLast?.any directoryModules.contains then names.dropLast else names

/-- The module that a file is, as the names that lead to it from the package's root. -/
def modulePath (file root : Path) : List String :=
  withoutDirectoryModule <| withoutSourceDirectory <| mapLast moduleName <| namesBelow file root

end RouteSurvey.Source
