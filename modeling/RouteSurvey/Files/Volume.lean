import RouteSurvey.Files.Access

/-! # Volumes

File trees that hold texts, and how the calls on files work on them. The root of the tree
is also the directory from which paths start. There are no links, so two paths mean the
same file exactly when they lead to the same location.
-/

namespace RouteSurvey

/-- The content of a file. -/
inductive Content where
  | text (text : String)
  /-- Bytes that are no text -/
  | bytes (bytes : List UInt8)
deriving DecidableEq, Inhabited

namespace Content

/-- Bytes as the content of a file. -/
def ofBytes (bytes : List UInt8) : Content :=
  (String.fromUTF8? ⟨bytes.toArray⟩).elim (.bytes bytes) .text

/-- The content as text. -/
def text? : Content → Option String
  | text written => some written
  | bytes _ => none

end Content

/-- A tree of files with content. -/
abbrev Volume : Type := FileTree Content

/-- A call that can be refused for reasons outside of the tree. -/
inductive FileCall where
  | makeDirectories | readText | remove | write
deriving DecidableEq, Repr

namespace Volume

/-- Where some pieces of a path lead from a location. Each has to start in a directory, and
one that is a name has to lead to something. -/
def follow? (volume : Volume) : Location → List String → Option Location
  | here, [] => some here
  | here, piece :: rest =>
    match volume.at? here with
    | some (.directory _) =>
      if piece = "" ∨ piece = "." then follow? volume here rest
      else if piece = ".." then follow? volume here.dropLast rest
      else if (volume.at? (here ++ [piece])).isSome then follow? volume (here ++ [piece]) rest
      else none
    | _ => none

/-- The location a path leads to. -/
def locate? (volume : Volume) (path : Path) : Option Location :=
  if path.isUsable then volume.follow? [] path.pieces else none

/-- What a path leads to. -/
def find? (volume : Volume) (path : Path) : Option Volume := do
  volume.at? (← volume.locate? path)

/-- A path leads to a directory. -/
def hasDirectory (volume : Volume) (path : Path) : Bool :=
  (volume.find? path).any (·.isDirectory)

/-- The text a path leads to. -/
def readText? (volume : Volume) (path : Path) : Option String := do
  (← (← volume.find? path).content?).text?

/-- Where a file can be made or replaced: a name in a directory, and no directory itself. -/
def target? (volume : Volume) (path : Path) : Option Location := do
  guard path.isUsable
  let name ← path.pieces.getLast?
  guard (Path.isEntryName name)
  let directory ← volume.follow? [] path.pieces.dropLast
  let .directory _ ← volume.at? directory | none
  let location := directory ++ [name]
  guard !((volume.at? location).any (·.isDirectory))
  return location

/-- The volume with a file made or replaced. -/
def write? (volume : Volume) (path : Path) (text : String) : Option Volume := do
  return volume.put (← volume.target? path) (.file (.text text))

/-- The volume without a file. -/
def remove? (volume : Volume) (path : Path) : Option Volume := do
  let location ← volume.locate? path
  let .file _ ← volume.at? location | none
  return volume.erase location

/-- Makes the directories that some components name, one below the other, up to the first
that cannot be made. -/
def makeAll (here : Location) : List Path.Component → Volume → Bool × Volume
  | [], volume => (true, volume)
  | .name name :: rest, volume =>
    let location := here ++ [name]
    match volume.at? here, volume.at? location with
    | some (.directory _), some found =>
      if found.isDirectory then makeAll location rest volume else (false, volume)
    | some (.directory _), none =>
      if Path.isEntryName name then makeAll location rest (volume.put location (.directory []))
      else (false, volume)
    | _, _ => (false, volume)
  | .up :: rest, volume => makeAll here.dropLast rest volume
  | _ :: rest, volume => makeAll here rest volume

/-- The last piece of a path that is not empty is a dot. -/
def endsInDot (path : Path) : Bool :=
  (path.pieces.filter (· ≠ "")).getLast? == some "."

/-- Makes a directory and those around it. The empty path is where one is, and a path that
ends in a dot needs its directory to be there. -/
def makeDirectories (volume : Volume) (path : Path) : Bool × Volume :=
  if path.text = "" then (true, volume)
  else if !path.isUsable then (false, volume)
  else
    let components :=
      if endsInDot path then path.components.dropLast else path.components
    let (made, after) := makeAll [] components volume
    (made && after.hasDirectory path, after)

/-- Working with the files of a volume, where some calls are refused. -/
def access (refuses : FileCall → Bool) : FileAccess (StateM Volume) where
  isPresent path := return ((← get).find? path).isSome
  isDirectory path := return (← get).hasDirectory path
  isFile path := return ((← get).find? path).any (!·.isDirectory)
  list? path := return ((← get).find? path).map (FileTree.map fun _ => ())
  readText? path := do
    if refuses .readText then return none
    return (← get).readText? path
  makeDirectories path := do
    if refuses .makeDirectories then return false
    modifyGet (·.makeDirectories path)
  remove path := do
    if refuses .remove then return false
    match (← get).remove? path with
    | some after => set after; return true
    | none => return false
  write path text := do
    if refuses .write then return false
    match (← get).write? path text with
    | some after => set after; return true
    | none => return false

end Volume

end RouteSurvey
