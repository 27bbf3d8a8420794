import RouteSurvey.CommandLine.Run

/-! # The program

Working with the files of the disk, and a run from the words of a command line. The report
goes to standard output, everything else to standard error.
-/

namespace RouteSurvey

/-- Tells whether a call ends without an error. -/
def holds {α : Type} (call : IO α) : IO Bool :=
  try
    let _ ← call
    return true
  catch _ => return false

/-- The answer of a call that ends without an error. -/
def answer? {α : Type} (call : IO α) : IO (Option α) :=
  try return some (← call)
  catch _ => return none

/-- What the entries of a directory are. Links are not followed and left out. -/
partial def listing : List IO.FS.DirEntry → IO (List (String × FileTree Unit))
  | [] => return []
  | entry :: rest => do
    let others ← listing rest
    match (← entry.path.symlinkMetadata).type with
    | .file => return (entry.fileName, .file ()) :: others
    | .dir =>
      match ← answer? entry.path.readDir with
      | some inner => return (entry.fileName, .directory (← listing inner.toList)) :: others
      | none => return (entry.fileName, .closed) :: others
    | _ => return others

/-- The files of the disk. -/
def disk : FileAccess IO where
  isPresent path := holds (IO.FS.realPath path.text)
  isDirectory path := do
    return (← answer? do (← IO.FS.realPath path.text).isDir).getD false
  isFile path := do
    let type? ← answer? do return (← (← IO.FS.realPath path.text).metadata).type
    return type? matches some .file
  list? path := answer? do
    match ← answer? do (← IO.FS.realPath path.text).readDir with
    | some entries => return .directory (← listing entries.toList)
    | none => return .closed
  readText? path := answer? (IO.FS.readFile path.text)
  makeDirectories path := do
    if path.text.isEmpty then return true
    holds (IO.FS.createDirAll path.text)
  remove path := holds (IO.FS.removeFile path.text)
  write path text := holds (IO.FS.writeFile path.text text)

namespace CommandLine

/-- How the program is called. -/
def usage : String :=
  "\n".intercalate [
    "Usage: route-survey [OPTIONS] <INPUT>",
    "",
    "Arguments:",
    "  <INPUT>  A project directory or a .yaml/.yml/.json declaration model",
    "",
    "Options:",
    "  -o, --output-dir <DIR>  Directory of the report; without it the report is printed",
    "  -c, --config <FILE>     Configuration, as YAML or JSON",
    "      --file-name <NAME>  Name of the report file",
    "  -v, --verbose           Tell more",
    "  -h, --help              Print help",
    "  -V, --version           Print version"]

/-- The text for a command line that is not carried out. -/
def UsageError.message : UsageError → String
  | help => usage
  | version => "route-survey 0.1.0"
  | unknownWord => "error: unexpected argument"
  | invalidValue => "error: a value is required but none was supplied"
  | unneededValue => "error: unexpected value for an option that takes none"
  | repeated => "error: an argument cannot be used multiple times"
  | inputMissing => "error: the following required arguments were not provided: <INPUT>"

/-- Carries out a command line and gives the exit code. -/
def execute (words : List String) : IO UInt32 := do
  match Request.ofWords words with
  | .error .help =>
    IO.println UsageError.help.message
    return 0
  | .error .version =>
    IO.println UsageError.version.message
    return 0
  | .error error =>
    IO.eprintln error.message
    return 2
  | .ok request =>
    let (result, notices) ← (serve disk request).outcome
    for notice in notices do
      IO.eprintln notice.line
    match result with
    | .ok printed =>
      IO.print printed
      return 0
    | .error error =>
      IO.eprintln ("Error: " ++ error.message)
      return 1

end CommandLine

end RouteSurvey

/-- Runs the program. -/
def main (words : List String) : IO UInt32 :=
  RouteSurvey.CommandLine.execute words
