import RouteSurvey.Mapping

/-! # Warnings and notices

What a survey finds worth telling: warnings, which are part of its result, and notices,
which go to the log.
-/

namespace RouteSurvey

/-- A declaration carries several kinds of mapping, of which one counts. -/
structure AmbiguousMapping where
  declaration : String
  found : List MappingKind
  selected : MappingKind
deriving DecidableEq, Repr

/-- The text of a warning. -/
def AmbiguousMapping.text (warning : AmbiguousMapping) : String :=
  "found multiple mapping annotations on " ++ warning.declaration ++
    " (" ++ ", ".intercalate (warning.found.map MappingKind.name) ++ "), only " ++
    warning.selected.name ++ " will be considered"

/-- A line of the log. -/
inductive Notice where
  | input (path : String)
  | outputDirectory (path : String)
  | outputToConsole
  | loadingModel
  | scanningProject
  | filesFound (count : Nat)
  | parsingFiles
  | directoryClosed (path : String)
  | fileSkipped (path reason : String)
  | filesParsed (count : Nat)
  | malformedArguments (kind : String)
  | loaded (classes methods : Nat)
  | resolving (methods : Nat)
  | unknownMethod (token : String)
  | cyclicNesting (declaration : String)
  | ambiguous (warning : AmbiguousMapping)
  | reportWritten (path : String)
  | nothingMapped
  | summary
  | classCount (count : Nat)
  | routeCount (count : Nat)
  | warningCount (count : Nat)
deriving DecidableEq, Repr

/-- How grave a notice is. -/
inductive Severity where
  | info | warning
deriving DecidableEq, Repr

/-- The word that leads a line of the log. -/
def Severity.name : Severity → String
  | info => "INFO"
  | warning => "WARN"

namespace Notice

/-- The severity of a notice. -/
def severity : Notice → Severity
  | directoryClosed _ | fileSkipped .. | malformedArguments _ | unknownMethod _
  | cyclicNesting _ | ambiguous _ | nothingMapped => .warning
  | _ => .info

/-- The text of a notice. -/
def text : Notice → String
  | input path => "Input: " ++ path
  | outputDirectory path => "Output directory: " ++ path
  | outputToConsole => "Output: stdout"
  | loadingModel => "Loading declaration model..."
  | scanningProject => "Scanning project directory..."
  | filesFound count => "Found " ++ toString count ++ " Rust files"
  | parsingFiles => "Parsing Rust files..."
  | directoryClosed path => "Failed to access path: " ++ path
  | fileSkipped path reason => "Skipping " ++ path ++ ": " ++ reason
  | filesParsed count => "Successfully parsed " ++ toString count ++ " files"
  | malformedArguments kind => "Ignoring malformed #[" ++ kind ++ "] arguments"
  | loaded classes methods =>
    "Loaded " ++ toString classes ++ " classes with " ++ toString methods ++ " methods"
  | resolving methods => "Resolving " ++ toString methods ++ " mapped methods"
  | unknownMethod token => "Skipping request method: unknown request method: " ++ token
  | cyclicNesting declaration =>
    "Cyclic nesting at " ++ declaration ++ ", ignoring further enclosing declarations"
  | ambiguous warning => warning.text
  | reportWritten path => "Wrote report to " ++ path
  | nothingMapped => "No mapped methods found"
  | summary => "Summary:"
  | classCount count => "  - Classes: " ++ toString count
  | routeCount count => "  - Routes: " ++ toString count
  | warningCount count => "  - Warnings: " ++ toString count

/-- The line of the log. -/
def line (notice : Notice) : String :=
  notice.severity.name ++ " " ++ notice.text

end Notice

end RouteSurvey
