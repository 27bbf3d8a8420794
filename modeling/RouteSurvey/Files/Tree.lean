/-! # File trees

A directory with everything below it. A location is the list of names that lead to a
place in the tree; no two locations lead to the same place.
-/

namespace RouteSurvey

/-- A tree of files that hold values of some type. Names are Unicode texts; files whose names
are not valid UTF-8 are outside the model. -/
inductive FileTree (α : Type) where
  | file (content : α)
  | directory (entries : List (String × FileTree α))
  /-- A directory whose entries cannot be listed -/
  | closed
deriving Inhabited

/-- The names that lead from the root of a tree to a place in it. -/
abbrev Location : Type := List String

namespace FileTree

variable {α β : Type}

/-- The entry of a name in a directory. -/
def child? (name : String) : FileTree α → Option (FileTree α)
  | directory entries => entries.lookup name
  | _ => none

/-- What stands at a location. -/
def at? : FileTree α → Location → Option (FileTree α)
  | tree, [] => some tree
  | tree, name :: rest => do (← tree.child? name).at? rest

/-- A directory, whether or not its entries can be listed. -/
def isDirectory : FileTree α → Bool
  | file _ => false
  | _ => true

/-- The content of a file. -/
def content? : FileTree α → Option α
  | file content => some content
  | _ => none

/-- Replaces the entry of a name, or adds one at the end. -/
def setEntry (name : String) (tree : FileTree α) :
    List (String × FileTree α) → List (String × FileTree α)
  | [] => [(name, tree)]
  | (other, old) :: rest =>
    if other = name then (name, tree) :: rest else (other, old) :: setEntry name tree rest

/-- Puts a tree at a location. Directories on the way are made if need be. -/
def put : FileTree α → Location → FileTree α → FileTree α
  | _, [], new => new
  | directory entries, name :: rest, new =>
    let old := (entries.lookup name).getD (directory [])
    directory (setEntry name (old.put rest new) entries)
  | tree, _ :: _, _ => tree

/-- Removes what stands at a location. -/
def erase : FileTree α → Location → FileTree α
  | directory entries, [name] => directory (entries.filter (·.1 ≠ name))
  | directory entries, name :: rest =>
    match entries.lookup name with
    | some child => directory (setEntry name (child.erase rest) entries)
    | none => directory entries
  | tree, _ => tree

mutual

/-- The locations of all files below a location, and what they hold. -/
def filesFrom (location : Location) : FileTree α → List (Location × α)
  | file content => [(location, content)]
  | directory entries => entryFilesFrom location entries
  | closed => []

/-- The files in some entries of a directory. -/
def entryFilesFrom (location : Location) : List (String × FileTree α) → List (Location × α)
  | [] => []
  | (name, tree) :: rest =>
    filesFrom (location ++ [name]) tree ++ entryFilesFrom location rest

end

/-- The locations of all files, and what they hold. -/
def files (tree : FileTree α) : List (Location × α) :=
  tree.filesFrom []

mutual

/-- Applies a function to what the files hold. -/
def map (f : α → β) : FileTree α → FileTree β
  | file content => file (f content)
  | directory entries => directory (mapEntries f entries)
  | closed => closed

/-- Applies a function to what the files in some entries hold. -/
def mapEntries (f : α → β) : List (String × FileTree α) → List (String × FileTree β)
  | [] => []
  | (name, tree) :: rest => (name, map f tree) :: mapEntries f rest

end

end FileTree

end RouteSurvey
