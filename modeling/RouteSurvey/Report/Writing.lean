import RouteSurvey.Action
import RouteSurvey.Files.Access
import RouteSurvey.Report

/-! # Writing reports

A report is put behind the one that is already in its file. The earlier report is read and
its file removed before the file is made anew.
-/

namespace RouteSurvey.Report

variable {m : Type → Type} [Monad m] (access : FileAccess m)

/-- Takes the earlier report out of its file, if there is one. -/
def takePrevious (path : Path) : Action m (Option String) := do
  if ← Action.call (access.isPresent path) then
    let previous ← Action.demand (.reportAccess path.text) (access.readText? path)
    Action.ensure (.reportAccess path.text) (access.remove path)
    return some previous
  else return none

/-- Writes a report to a file of the given name in a directory, and gives its path. -/
def write (directory : Path) (fileName fresh : String) : Action m Path := do
  let path := directory.join ⟨fileName⟩
  Action.ensure (.reportAccess directory.text) (access.makeDirectories directory)
  let previous ← takePrevious access path
  Action.ensure (.reportAccess path.text) (access.write path (merge previous fresh))
  return path

end RouteSurvey.Report
