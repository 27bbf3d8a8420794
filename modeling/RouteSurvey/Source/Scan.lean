import RouteSurvey.Files.Path
import RouteSurvey.Files.Tree
import RouteSurvey.Source.ModulePath

/-! # Scans

The source files below a directory. Hidden entries and the directories that hold built
files are left out with everything below them. Directories are walked depth first, and
the entries of each in the order of their names.
-/

namespace RouteSurvey.Source

/-- The directory that holds built files. -/
def buildDirectory : String := "target"

/-- What a walk comes across. -/
inductive Finding where
  | source (path : Path)
  /-- A directory whose entries cannot be listed -/
  | closed (path : Path)
deriving DecidableEq, Repr

variable {α : Type}

/-- An entry whose name begins with a dot. -/
def isHidden (name : String) : Bool :=
  name.toList.head? == some '.'

/-- An entry that a walk looks into: a source file, or a directory that may hold some. -/
def isWalked (name : String) (tree : FileTree α) : Bool :=
  !isHidden name &&
    if tree.isDirectory then name ≠ buildDirectory
    else Path.extensionOf? name == some extension

mutual

/-- What a walk comes across below a path. -/
def findings (path : Path) : FileTree α → List Finding
  | .file _ => [.source path]
  | .closed => [.closed path]
  | .directory entries =>
    ((entryFindings path entries).mergeSort fun a b => a.1 ≤ b.1).flatMap (·.2)

/-- What a walk comes across in each of some entries, by their names. -/
def entryFindings (path : Path) : List (String × FileTree α) → List (String × List Finding)
  | [] => []
  | (name, tree) :: rest =>
    if isWalked name tree then
      (name, findings (path.join ⟨name⟩) tree) :: entryFindings path rest
    else entryFindings path rest

end

/-- The outcome of a scan. -/
structure Scan where
  files : List Path
  /-- Directories whose entries could not be listed -/
  closed : List Path
deriving DecidableEq, Repr

/-- The source files of a tree that stands at a path. -/
def Scan.ofTree (root : Path) (tree : FileTree α) : Scan where
  files := (findings root tree).filterMap fun
    | .source path => some path
    | .closed _ => none
  closed := (findings root tree).filterMap fun
    | .source _ => none
    | .closed path => some path

end RouteSurvey.Source
