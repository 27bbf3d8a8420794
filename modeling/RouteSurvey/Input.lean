import RouteSurvey.Action
import RouteSurvey.Files.Access
import RouteSurvey.Source.Collection
import RouteSurvey.Source.Scan

/-! # Inputs

Where a declaration tree comes from: a document that spells it out, or the source files of
a project. Settings come from a document, too.
-/

namespace RouteSurvey

variable {m : Type → Type} [Monad m] (access : FileAccess m)

/-! ## Documents -/

/-- The format of a document by its name. -/
def DocumentFormat.ofPath (path : Path) : DocumentFormat :=
  ofExtension path.extension?

/-- Reads settings from a document. -/
def Config.load (path : Path) : Action m Config := do
  let text ← Action.demand (.unreadable .config path.text) (access.readText? path)
  let format := DocumentFormat.ofPath path
  match Config.ofText? format text with
  | some config => return config
  | none => throw (.invalidConfig format path.text)

/-- Reads a declaration tree from a document. -/
def Declaration.Tree.load (path : Path) : Action m Declaration.Tree := do
  let text ← Action.demand (.unreadable .tree path.text) (access.readText? path)
  match Declaration.Tree.ofText? (DocumentFormat.ofPath path) text with
  | some tree => return tree
  | none => throw (.invalidTreeFile path.text)

/-! ## Projects -/

namespace Source

/-- Looks for the source files below a directory. -/
def Scan.load (root : Path) : Action m Scan := do
  Action.ensure (.notADirectory root.text) (access.isDirectory root)
  let tree ← Action.demand (.notADirectory root.text) (access.list? root)
  let scan := Scan.ofTree root tree
  Action.tell (scan.closed.map fun path => .directoryClosed path.text)
  return scan

/-- Reads a source file. -/
def SourceFile.load (path : Path) : Action m SourceFile := do
  let text ← Action.demand (.unreadable .source path.text) (access.readText? path)
  match File.ofText? text with
  | some file => return ⟨path, file⟩
  | none => throw (.invalidSource path.text)

/-- Reads source files; those that cannot be read are left out. -/
def loadAll : List Path → Action m (List SourceFile)
  | [] => return []
  | path :: rest => do
    let found ← tryCatch (some <$> SourceFile.load access path) fun error => do
      Action.tell [.fileSkipped path.text error.message]
      return none
    return found.toList ++ (← loadAll rest)

/-- Collects the declaration tree of a project. -/
def loadProject (root : Path) : Action m Declaration.Tree := do
  Action.tell [.scanningProject]
  let scan ← Scan.load access root
  Action.tell [.filesFound scan.files.length]
  if scan.files.isEmpty then throw .noSources
  Action.tell [.parsingFiles]
  let sources ← loadAll access scan.files
  Action.tell [.filesParsed sources.length]
  if sources.isEmpty then throw .nothingParsed
  Action.tell (noticesOf root sources)
  return collect root sources

end Source

/-! ## Inputs -/

/-- A source of declarations. -/
inductive Input where
  /-- A directory with the source files of a project -/
  | project (root : Path)
  /-- A document that spells out a declaration tree -/
  | document (path : Path)
deriving DecidableEq, Repr

namespace Input

/-- The extensions of documents that can hold a declaration tree. -/
def documentExtensions : List String := ["yaml", "yml", "json"]

/-- Tells what kind of input stands at a path. -/
def detect (path : Path) : Action m Input := do
  if ← Action.call (access.isDirectory path) then return .project path
  Action.ensure (.inputMissing path.text) (access.isPresent path)
  if path.extension?.any documentExtensions.contains then return .document path
  else throw (.inputKind path.text)

/-- Reads the declaration tree of the input at a path. -/
def load (path : Path) : Action m Declaration.Tree := do
  match ← detect access path with
  | .document path =>
    Action.tell [.loadingModel]
    Declaration.Tree.load access path
  | .project root => Source.loadProject access root

end Input

end RouteSurvey
