import RouteSurvey.DocumentFormat
import RouteSurvey.Resolution.Resolver

/-! # Errors

What can end a run before its result, and how it is told.
-/

namespace RouteSurvey

/-- What a file is read for. -/
inductive FileRole where
  | tree | config | source
deriving DecidableEq, Repr

/-- The role in words. -/
def FileRole.name : FileRole → String
  | tree => "declaration model"
  | config => "configuration"
  | source => "file"

/-- The cause that ends a run. -/
inductive Error where
  | unresolved (failure : Resolution.Failure)
  /-- The report, or the directory for it, cannot be accessed -/
  | reportAccess (path : String)
  /-- A text is no declaration tree -/
  | invalidTree (format : DocumentFormat)
  /-- A file holds no declaration tree -/
  | invalidTreeFile (path : String)
  | invalidConfig (format : DocumentFormat) (path : String)
  | invalidSource (path : String)
  | unreadable (role : FileRole) (path : String)
  | inputMissing (path : String)
  | inputKind (path : String)
  | notADirectory (path : String)
  | configMissing (path : String)
  /-- The name for the report is empty or has a separator in it; given in quotes -/
  | fileNameNotPlain (quoted : String)
  | noSources
  | nothingParsed
deriving DecidableEq, Repr

/-- The text of an error. -/
def Error.message : Error → String
  | unresolved failure => failure.text
  | reportAccess path => "report I/O failed for " ++ path
  | invalidTree format => "invalid declaration model: " ++ format.name
  | invalidTreeFile path => "Failed to decode declaration model: " ++ path
  | invalidConfig format path => "Invalid " ++ format.name ++ " configuration: " ++ path
  | invalidSource path => "Failed to parse Rust syntax in file: " ++ path
  | unreadable role path => "Failed to read " ++ role.name ++ ": " ++ path
  | inputMissing path => "Input path does not exist: " ++ path
  | inputKind path =>
    "Input must be a project directory or a .yaml/.yml/.json declaration model: " ++ path
  | notADirectory path => "Project path is not a directory: " ++ path
  | configMissing path => "Configuration file does not exist: " ++ path
  | fileNameNotPlain quoted => "Report file name must be a plain file name: " ++ quoted
  | noSources => "No Rust files found in the project directory"
  | nothingParsed => "No files could be parsed successfully"

end RouteSurvey
