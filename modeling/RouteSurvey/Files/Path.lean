/-! # Paths

Paths as they are written, and the parts they consist of. Repeated separators and dots
that lead nowhere are no parts of a path, but they stay in its text.
-/

namespace RouteSurvey

/-- A path as written. -/
structure Path where
  text : String
deriving DecidableEq, Repr, Inhabited

/-- A part of a path. -/
inductive Path.Component where
  | root
  /-- A dot at the beginning -/
  | here
  /-- Two dots -/
  | up
  | name (name : String)
deriving DecidableEq, Repr, Inhabited

namespace Path

namespace Component

/-- A component as text. -/
def text : Component → String
  | root => "/"
  | here => "."
  | up => ".."
  | name word => word

/-- The component that a piece behind the beginning of a path stands for. -/
def ofPiece? (piece : String) : Option Component :=
  if piece = "" ∨ piece = "." then none
  else if piece = ".." then some up
  else some (name piece)

end Component

/-- The pieces between separators. -/
def splitAtSlashes : List Char → List (List Char)
  | [] => [[]]
  | c :: rest =>
    if c = '/' then [] :: splitAtSlashes rest
    else match splitAtSlashes rest with
      | piece :: more => (c :: piece) :: more
      | [] => [[c]]

/-- The pieces of a path between its separators; some may be empty. -/
def pieces (path : Path) : List String :=
  (splitAtSlashes path.text.toList).map String.ofList

/-- The path starts at the root. -/
def isAbsolute (path : Path) : Bool :=
  path.text.toList.head? == some '/'

/-- The parts of a path. -/
def components (path : Path) : List Component :=
  let first :=
    if path.isAbsolute then [.root]
    else if path.pieces.head? = some "." then [.here]
    else []
  first ++ path.pieces.filterMap Component.ofPiece?

/-- The components of a path below another one. -/
def below? (path root : Path) : Option (List Component) :=
  if root.components.isPrefixOf path.components then
    some (path.components.drop root.components.length)
  else none

/-- A path as seen from a directory; an absolute one stays as it is. -/
def join (directory path : Path) : Path :=
  if path.isAbsolute then path
  else if directory.text = "" ∨ directory.text.toList.getLast? = some '/' then
    ⟨directory.text ++ path.text⟩
  else ⟨directory.text ++ "/" ++ path.text⟩

/-- The last part, if it is a name. -/
def fileName? (path : Path) : Option String :=
  match path.components.getLast? with
  | some (.name name) => some name
  | _ => none

/-- What stands after the last dot of a file name. A dot at its beginning does not count. -/
def extensionOf? (fileName : String) : Option String :=
  let cs := fileName.toList
  let extension := (cs.reverse.takeWhile (· ≠ '.')).reverse
  if cs.length ≤ extension.length + 1 then none else some (String.ofList extension)

/-- The extension of the file that a path names. -/
def extension? (path : Path) : Option String :=
  path.fileName?.bind extensionOf?

/-- The most bytes that a name can have. -/
def nameLimit : Nat := 255

/-- A directory can have an entry of this name. -/
def isEntryName (name : String) : Bool :=
  name ≠ "" && name ≠ "." && name ≠ ".." && name.utf8ByteSize ≤ nameLimit &&
    name.toList.all fun c => c ≠ '/' && c ≠ '\x00'

/-- The most bytes that a path can have. -/
def lengthLimit : Nat := 4095

/-- A path that can be asked for at all. -/
def isUsable (path : Path) : Bool :=
  path.text ≠ "" && path.text.utf8ByteSize ≤ lengthLimit &&
    path.text.toList.all (· ≠ '\x00')

end Path

end RouteSurvey
