import RouteSurvey.CommandLine.Request
import RouteSurvey.Input
import RouteSurvey.Report.Writing
import RouteSurvey.Survey
import RouteSurvey.Text.Quoted

/-! # Runs

Carrying out a request: the request is checked, settings and declarations are read, the
survey is made, and its report is printed or written.
-/

namespace RouteSurvey

variable {m : Type → Type} [Monad m] (access : FileAccess m)

/-- Makes a survey as a step of a run. -/
def Survey.perform (tree : Declaration.Tree) (config : Config) : Action m Survey := do
  let (result, journal) := Survey.run tree config
  Action.tell journal.log
  match result with
  | .ok survey => return survey
  | .error failure => throw (.unresolved failure)

namespace CommandLine

/-- A name that can be given to a report: neither empty nor a path. -/
def isPlainFileName (name : String) : Bool :=
  name ≠ "" && name.toList.all fun c => c ≠ '/' && c ≠ '\\'

/-- Checks that the files of a request are there and that its file name is plain. -/
def check (request : Request) : Action m Unit := do
  Action.ensure (.inputMissing request.input.text) (access.isPresent request.input)
  if let some path := request.config? then
    Action.ensure (.configMissing path.text) (access.isFile path)
  if let some name := request.fileName? then
    if !isPlainFileName name then throw (.fileNameNotPlain (Text.quoted name))
  Action.tell [.input request.input.text,
    request.outputDirectory?.elim .outputToConsole fun path => .outputDirectory path.text]

/-- The settings of a request. A file name in the request itself comes first. -/
def settings (request : Request) : Action m Config := do
  let config ← match request.config? with
    | some path => Config.load access path
    | none => pure {}
  return { config with reportFileName := request.fileName?.getD config.reportFileName }

/-- The text to print: the report, unless it is written to a file. -/
def deliver (request : Request) (config : Config) (survey : Survey) : Action m String := do
  match request.outputDirectory? with
  | some directory =>
    let path ← Report.write access directory config.reportFileName survey.report
    Action.tell [.reportWritten path.text]
    return ""
  | none => return survey.report

/-- What there is to tell about a survey at the end. -/
def closing (survey : Survey) : List Notice :=
  survey.warnings.map .ambiguous ++
    (if survey.registry.isEmpty then [.nothingMapped] else []) ++
    [.summary, .classCount survey.registry.groups.length,
      .routeCount survey.registry.routeCount, .warningCount survey.warnings.length]

/-- Carries out a request that has been checked, and gives the text to print. -/
def run (request : Request) : Action m String := do
  let config ← settings access request
  let tree ← Input.load access request.input
  Action.tell [.loaded tree.classes.length tree.methodCount]
  let survey ← Survey.perform tree config
  let printed ← deliver access request config survey
  Action.tell (closing survey)
  return printed

/-- Checks a request and carries it out. -/
def serve (request : Request) : Action m String := do
  check access request
  run access request

end CommandLine

end RouteSurvey
