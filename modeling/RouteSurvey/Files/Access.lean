import RouteSurvey.Files.Path
import RouteSurvey.Files.Tree

/-! # Access to files

The calls by which a program works with files, in any monad. A call that fails changes
nothing, except that some of several directories may have been made.
-/

namespace RouteSurvey

/-- Ways to work with files. -/
structure FileAccess (m : Type → Type) where
  /-- Something is there -/
  isPresent : Path → m Bool
  isDirectory : Path → m Bool
  isFile : Path → m Bool
  /-- The names below a directory -/
  list? : Path → m (Option (FileTree Unit))
  /-- The content of a file, if it is text -/
  readText? : Path → m (Option String)
  /-- Makes a directory and those around it; tells whether it is there then -/
  makeDirectories : Path → m Bool
  /-- Removes a file; tells whether it did -/
  remove : Path → m Bool
  /-- Makes or replaces a file; tells whether it did -/
  write : Path → String → m Bool

end RouteSurvey
