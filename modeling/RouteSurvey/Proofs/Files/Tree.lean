import Mathlib.Data.List.Basic
import RouteSurvey.Files.Tree
import RouteSurvey.Proofs.Dictionary

/-! # File trees as maps

What stands at a location is a file, a directory or nothing, apart from what is below it.
A tree is seen as the map from locations to what stands there. Putting something that has
nothing below it, and erasing it again, change this map at one location only.
-/

namespace RouteSurvey.FileTree

open Dictionary (lookup_cons_ite)

variable {α : Type}

/-- What stands at a place, apart from what is below it. -/
inductive Node (α : Type) where
  | file (content : α)
  | directory
  | closed
deriving DecidableEq

/-- The content of a file. -/
def Node.content? : Node α → Option α
  | file content => some content
  | _ => none

/-- What a tree is at its root. -/
def node : FileTree α → Node α
  | file content => .file content
  | directory _ => .directory
  | closed => .closed

/-- What stands at a location, apart from what is below it. -/
def nodeAt? (tree : FileTree α) (location : Location) : Option (Node α) :=
  (tree.at? location).map node

/-- What the file at a location holds, if there is one. -/
def contentAt? (tree : FileTree α) (location : Location) : Option α :=
  (tree.at? location).bind content?

/-- Nothing is below the root of a tree. -/
def IsBare (tree : FileTree α) : Prop :=
  ∀ name, tree.child? name = none

/-! ## Locations -/

section Locations

variable {tree : FileTree α} {location : Location} {name : String}

theorem at?_nil (tree : FileTree α) : tree.at? [] = some tree := by
  rw [at?.eq_def]

theorem at?_cons (tree : FileTree α) (name : String) (rest : Location) :
    tree.at? (name :: rest) = (tree.child? name).bind (·.at? rest) := by
  rw [at?.eq_def]
  rfl

theorem at?_append (tree : FileTree α) (first second : Location) :
    tree.at? (first ++ second) = (tree.at? first).bind (·.at? second) := by
  induction first generalizing tree with
  | nil => rw [List.nil_append, at?_nil, Option.bind_some]
  | cons name rest ih =>
      rw [List.cons_append, at?_cons, at?_cons, Option.bind_assoc]
      exact congrArg _ (funext fun child => ih child)

theorem at?_concat (tree : FileTree α) (location : Location) (name : String) :
    tree.at? (location ++ [name]) = (tree.at? location).bind (·.child? name) := by
  rw [at?_append]
  refine congrArg _ (funext fun found => ?_)
  rw [at?_cons]
  cases found.child? name with
  | none => rfl
  | some child => exact at?_nil child

theorem IsBare.at?_cons (hbare : tree.IsBare) (rest : Location) :
    tree.at? (name :: rest) = none := by
  rw [FileTree.at?_cons, hbare name, Option.bind_none]

theorem isBare_file (content : α) : (file content).IsBare :=
  fun _ => rfl

theorem isBare_directory_nil : (directory ([] : List (String × FileTree α))).IsBare :=
  fun _ => rfl

theorem nodeAt?_nil (tree : FileTree α) : tree.nodeAt? [] = some tree.node := by
  rw [nodeAt?, at?_nil, Option.map_some]

theorem nodeAt?_cons (tree : FileTree α) (name : String) (rest : Location) :
    tree.nodeAt? (name :: rest) = (tree.child? name).bind (·.nodeAt? rest) := by
  rw [nodeAt?, FileTree.at?_cons, Option.map_bind]
  rfl

theorem IsBare.nodeAt?_cons (hbare : tree.IsBare) (rest : Location) :
    tree.nodeAt? (name :: rest) = none := by
  rw [nodeAt?, hbare.at?_cons, Option.map_none]

theorem nodeAt?_eq_directory : tree.nodeAt? location = some .directory ↔
    ∃ entries, tree.at? location = some (directory entries) := by
  rw [nodeAt?, Option.map_eq_some_iff]
  constructor
  · rintro ⟨found, hfound, hnode⟩
    cases found with
    | directory entries => exact ⟨entries, hfound⟩
    | file content => contradiction
    | closed => contradiction
  · rintro ⟨entries, hfound⟩
    exact ⟨_, hfound, rfl⟩

theorem nodeAt?_eq_file {content : α} : tree.nodeAt? location = some (.file content) ↔
    tree.at? location = some (file content) := by
  rw [nodeAt?, Option.map_eq_some_iff]
  constructor
  · rintro ⟨found, hfound, hnode⟩
    cases found with
    | file other => rw [hfound, Node.file.inj hnode]
    | directory entries => contradiction
    | closed => contradiction
  · intro hfound
    exact ⟨_, hfound, rfl⟩

theorem contentAt?_eq_bind (tree : FileTree α) (location : Location) :
    tree.contentAt? location = (tree.nodeAt? location).bind Node.content? := by
  rw [contentAt?, nodeAt?, Option.bind_map]
  refine congrArg _ (funext fun found => ?_)
  cases found <;> rfl

/-- What is around something is a directory. -/
theorem nodeAt?_of_concat (hfound : (tree.nodeAt? (location ++ [name])).isSome) :
    tree.nodeAt? location = some .directory := by
  rw [nodeAt?, Option.isSome_map, at?_concat] at hfound
  rw [nodeAt?_eq_directory]
  cases hlocation : tree.at? location with
  | none => simp [hlocation] at hfound
  | some found =>
      cases found with
      | directory entries => exact ⟨entries, rfl⟩
      | file content => simp [hlocation, child?] at hfound
      | closed => simp [hlocation, child?] at hfound

end Locations

/-! ## Changes in one directory -/

section Edits

variable {entries : List (String × FileTree α)} {directoryAt : Location} {name : String}

theorem lookup_eq_some_iff_mem (hnames : (entries.map (·.1)).Nodup) {tree : FileTree α} :
    entries.lookup name = some tree ↔ (name, tree) ∈ entries := by
  induction entries with
  | nil => simp
  | cons entry rest ih =>
      obtain ⟨first, old⟩ := entry
      rw [List.map_cons, List.nodup_cons] at hnames
      rw [lookup_cons_ite, List.mem_cons, Prod.mk.injEq]
      split
      next hfirst =>
        subst hfirst
        have hrest : (name, tree) ∉ rest :=
          fun hmem => hnames.1 (List.mem_map.mpr ⟨_, hmem, rfl⟩)
        simp [hrest, eq_comm]
      next hfirst =>
        rw [ih hnames.2]
        simp [hfirst]

theorem lookup_setEntry (name other : String) (new : FileTree α)
    (entries : List (String × FileTree α)) :
    (setEntry name new entries).lookup other =
      if other = name then some new else entries.lookup other := by
  induction entries with
  | nil => rw [setEntry, lookup_cons_ite]
  | cons entry rest ih =>
      obtain ⟨first, old⟩ := entry
      rw [setEntry, lookup_cons_ite]
      by_cases hfirst : first = name
      · rw [if_pos hfirst, lookup_cons_ite, hfirst]
        by_cases hother : other = name <;> simp [hother]
      · rw [if_neg hfirst, lookup_cons_ite, ih]
        by_cases hother : other = first <;> simp [hother, hfirst]

theorem lookup_filter_ne (name other : String) (entries : List (String × FileTree α)) :
    (entries.filter (·.1 ≠ name)).lookup other =
      if other = name then none else entries.lookup other := by
  induction entries with
  | nil => simp
  | cons entry rest ih =>
      obtain ⟨first, old⟩ := entry
      rw [lookup_cons_ite]
      by_cases hfirst : first = name
      · rw [List.filter_cons_of_neg (by simpa using hfirst), ih, hfirst]
        by_cases hother : other = name <;> simp [hother]
      · rw [List.filter_cons_of_pos (by simpa using hfirst), lookup_cons_ite, ih]
        by_cases hother : other = first <;> simp [hother, hfirst]

/-- Applies a function to the entries of the directory at a location. -/
def editAt (edit : List (String × FileTree α) → List (String × FileTree α)) :
    FileTree α → Location → FileTree α
  | directory entries, [] => directory (edit entries)
  | directory entries, name :: rest =>
    match entries.lookup name with
    | some child => directory (setEntry name (child.editAt edit rest) entries)
    | none => directory entries
  | tree, _ => tree

theorem at?_cons_eq_some {tree found : FileTree α} {rest : Location}
    (hfound : tree.at? (name :: rest) = some found) :
    ∃ entries child, tree = directory entries ∧ entries.lookup name = some child ∧
      child.at? rest = some found := by
  rw [at?_cons] at hfound
  obtain ⟨child, hchild, hrest⟩ := Option.bind_eq_some_iff.mp hfound
  cases tree with
  | directory entries => exact ⟨entries, child, rfl, hchild, hrest⟩
  | file content => contradiction
  | closed => contradiction

theorem put_concat_eq_editAt {tree new : FileTree α}
    (hdirectory : tree.at? directoryAt = some (directory entries)) :
    tree.put (directoryAt ++ [name]) new = tree.editAt (setEntry name new) directoryAt := by
  induction directoryAt generalizing tree with
  | nil =>
      rw [at?_nil, Option.some_inj] at hdirectory
      rw [hdirectory, List.nil_append, put, editAt, put]
  | cons first rest ih =>
      obtain ⟨around, child, rfl, hchild, hrest⟩ := at?_cons_eq_some hdirectory
      rw [List.cons_append, put, editAt, hchild, Option.getD_some, ih hrest]

theorem erase_concat_eq_editAt {tree : FileTree α}
    (hdirectory : tree.at? directoryAt = some (directory entries)) :
    tree.erase (directoryAt ++ [name]) =
      tree.editAt (fun entries => entries.filter (·.1 ≠ name)) directoryAt := by
  induction directoryAt generalizing tree with
  | nil =>
      rw [at?_nil, Option.some_inj] at hdirectory
      rw [hdirectory, List.nil_append, erase, editAt]
  | cons first rest ih =>
      obtain ⟨around, child, rfl, hchild, hrest⟩ := at?_cons_eq_some hdirectory
      rw [List.cons_append, erase, editAt, hchild]
      · exact congrArg (fun child => directory (setEntry first child around)) (ih hrest)
      · simp

/-- An edit that changes one entry, and only what has nothing below it, changes what stands
at one location. -/
theorem nodeAt?_editAt {tree : FileTree α}
    {edit : List (String × FileTree α) → List (String × FileTree α)}
    (hdirectory : tree.at? directoryAt = some (directory entries))
    (hothers : ∀ other ≠ name, (edit entries).lookup other = entries.lookup other)
    (hold : ∀ child ∈ entries.lookup name, child.IsBare)
    (hnew : ∀ child ∈ (edit entries).lookup name, child.IsBare) (location : Location) :
    (tree.editAt edit directoryAt).nodeAt? location =
      if location = directoryAt ++ [name] then ((edit entries).lookup name).map node
      else tree.nodeAt? location := by
  -- On the way to the directory only the child that leads there changes.
  induction directoryAt generalizing tree location with
  | nil =>
      rw [at?_nil, Option.some_inj] at hdirectory
      rw [hdirectory, editAt, List.nil_append]
      cases location with
      | nil => rfl
      | cons first rest =>
          rw [nodeAt?_cons, nodeAt?_cons, child?, child?]
          by_cases hfirst : first = name
          · subst hfirst
            cases rest with
            | nil =>
                rw [if_pos rfl]
                cases (edit entries).lookup first with
                | none => rfl
                | some child => exact nodeAt?_nil child
            | cons second below =>
                -- Neither the old entry nor the new one has anything below it.
                rw [if_neg (by simp)]
                have hbelow (found : Option (FileTree α)) (hbare : ∀ child ∈ found, child.IsBare) :
                    (found.bind fun child => child.nodeAt? (second :: below)) = none :=
                  Option.bind_eq_none_iff.mpr fun child hchild =>
                    (hbare child hchild).nodeAt?_cons _
                rw [hbelow _ hnew, hbelow _ hold]
          · rw [if_neg (by simp [hfirst]), hothers first hfirst]
  | cons outer inner ih =>
      obtain ⟨around, child, rfl, hchild, hinner⟩ := at?_cons_eq_some hdirectory
      rw [editAt, hchild]
      cases location with
      | nil => rfl
      | cons first rest =>
          simp only [nodeAt?_cons, child?, lookup_setEntry, List.cons_append, List.cons.injEq]
          by_cases hfirst : first = outer
          · subst hfirst
            simp [hchild, ih hinner]
          · simp [hfirst]

end Edits

/-! ## Putting and erasing -/

section Updates

variable {tree new : FileTree α} {directoryAt : Location} {name : String}

theorem isBare_of_lookup {entries : List (String × FileTree α)}
    (hdirectory : tree.at? directoryAt = some (directory entries))
    (hbare : ∀ old ∈ tree.at? (directoryAt ++ [name]), old.IsBare) :
    ∀ old ∈ entries.lookup name, old.IsBare := by
  intro old hold
  refine hbare old ?_
  rw [at?_concat, hdirectory]
  exact hold

/-- Something without anything below it, put into a directory in the place of something
else of this kind, is a change at one location. -/
theorem nodeAt?_put (hdirectory : tree.nodeAt? directoryAt = some .directory)
    (hold : ∀ old ∈ tree.at? (directoryAt ++ [name]), old.IsBare) (hnew : new.IsBare)
    (location : Location) :
    (tree.put (directoryAt ++ [name]) new).nodeAt? location =
      if location = directoryAt ++ [name] then some new.node else tree.nodeAt? location := by
  obtain ⟨entries, hentries⟩ := nodeAt?_eq_directory.mp hdirectory
  have hlookup : (setEntry name new entries).lookup name = some new := by
    rw [lookup_setEntry, if_pos rfl]
  rw [put_concat_eq_editAt hentries, nodeAt?_editAt hentries, hlookup, Option.map_some]
  · intro other hother
    rw [lookup_setEntry, if_neg hother]
  · exact isBare_of_lookup hentries hold
  · rw [hlookup]
    rintro child ⟨⟩
    exact hnew

/-- To erase something that has nothing below it is a change at one location. -/
theorem nodeAt?_erase (hdirectory : tree.nodeAt? directoryAt = some .directory)
    (hold : ∀ old ∈ tree.at? (directoryAt ++ [name]), old.IsBare) (location : Location) :
    (tree.erase (directoryAt ++ [name])).nodeAt? location =
      if location = directoryAt ++ [name] then none else tree.nodeAt? location := by
  obtain ⟨entries, hentries⟩ := nodeAt?_eq_directory.mp hdirectory
  have hlookup : (entries.filter (·.1 ≠ name)).lookup name = none := by
    rw [lookup_filter_ne, if_pos rfl]
  rw [erase_concat_eq_editAt hentries, nodeAt?_editAt hentries, hlookup, Option.map_none]
  · intro other hother
    rw [lookup_filter_ne, if_neg hother]
  · exact isBare_of_lookup hentries hold
  · rw [hlookup]
    rintro child ⟨⟩

end Updates

end RouteSurvey.FileTree
