import RouteSurvey.Files.Path
import RouteSurvey.Notice
import RouteSurvey.Source.Assembly
import RouteSurvey.Source.ModulePath

/-! # Collection

The declaration tree of a project's source files. Each file is the module that its place
below the root of the project makes it.
-/

namespace RouteSurvey.Source

/-- A source file that has been read. -/
structure SourceFile where
  path : Path
  file : File

/-- The parts in a source file of a project. -/
def SourceFile.parts (root : Path) (source : SourceFile) : List Part :=
  source.file.parts (modulePath source.path root)

/-- The parts in the source files of a project, in order. -/
def partsOf (root : Path) (sources : List SourceFile) : List Part :=
  sources.flatMap (·.parts root)

/-- The declaration tree of a project. -/
def collect (root : Path) (sources : List SourceFile) : Declaration.Tree :=
  treeOfParts (partsOf root sources)

/-- What there is to tell about the source files of a project: the markers whose arguments
cannot be read. -/
def noticesOf (root : Path) (sources : List SourceFile) : List Notice :=
  (partsOf root sources).flatMap fun part => part.malformed.map .malformedArguments

end RouteSurvey.Source
