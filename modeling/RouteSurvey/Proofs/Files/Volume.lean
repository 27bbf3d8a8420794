import Mathlib.Data.Option.Basic
import RouteSurvey.Files.Volume
import RouteSurvey.Proofs.Files.Path
import RouteSurvey.Proofs.Files.Tree

/-! # Calls on volumes

A path leads to its place or nowhere. Each call reads what stands at that place, or changes
what stands there and nothing else.
-/

namespace RouteSurvey

namespace Volume

open FileTree

variable {volume after : Volume}

/-- Every name in the volume is one that a directory can have. -/
def HasEntryNames (volume : Volume) : Prop :=
  ∀ location, (volume.nodeAt? location).isSome → ∀ name ∈ location, Path.isEntryName name

theorem hasEntryNames_file (content : Content) : HasEntryNames (.file content) := by
  intro location hlocation
  cases location with
  | nil => exact fun name hname => absurd hname (List.not_mem_nil)
  | cons first rest =>
      rw [(isBare_file content).nodeAt?_cons] at hlocation
      contradiction

theorem hasEntryNames_directory {entries : List (String × Volume)}
    (hentries : ∀ entry ∈ entries, Path.isEntryName entry.1 ∧ HasEntryNames entry.2) :
    HasEntryNames (.directory entries) := by
  intro location hlocation
  cases location with
  | nil => exact fun name hname => absurd hname (List.not_mem_nil)
  | cons first rest =>
      rw [nodeAt?_cons, child?] at hlocation
      cases hlookup : entries.lookup first with
      | none => simp [hlookup] at hlocation
      | some tree =>
          rw [hlookup, Option.bind_some] at hlocation
          obtain ⟨before, after, rfl, -⟩ := List.lookup_eq_some_iff.mp hlookup
          obtain ⟨hfirst, htree⟩ := hentries (first, tree) (by simp)
          exact List.forall_mem_cons.mpr ⟨hfirst, htree rest hlocation⟩

/-- The same files are there and hold the same. -/
def SameFiles (before after : Volume) : Prop :=
  ∀ location, after.contentAt? location = before.contentAt? location

theorem SameFiles.trans {first second third : Volume} (hbefore : SameFiles first second)
    (hafter : SameFiles second third) : SameFiles first third :=
  fun location => (hafter location).trans (hbefore location)

/-- The files are as they were, and allowed names stay allowed. -/
structure Keeps (before after : Volume) : Prop where
  sameFiles : SameFiles before after
  hasEntryNames : before.HasEntryNames → after.HasEntryNames

theorem Keeps.refl (volume : Volume) : Keeps volume volume :=
  ⟨fun _ => rfl, id⟩

theorem Keeps.trans {first second third : Volume} (hbefore : Keeps first second)
    (hafter : Keeps second third) : Keeps first third :=
  ⟨hbefore.sameFiles.trans hafter.sameFiles, hafter.hasEntryNames ∘ hbefore.hasEntryNames⟩

/-- A change at one location whose name is allowed leaves all names allowed. -/
theorem HasEntryNames.update {around : Location} {name : String} {new? : Option (Node Content)}
    (hnames : volume.HasEntryNames) (haround : volume.nodeAt? around = some .directory)
    (hname : Path.isEntryName name)
    (hafter : ∀ location, after.nodeAt? location =
      if location = around ++ [name] then new? else volume.nodeAt? location) :
    after.HasEntryNames := by
  intro location hlocation
  rw [hafter] at hlocation
  split at hlocation
  next hhere =>
    intro other hother
    rw [hhere, List.mem_append, List.mem_singleton] at hother
    obtain hother | rfl := hother
    · exact hnames around (by rw [haround]; rfl) other hother
    · exact hname
  next => exact hnames location hlocation

theorem contentAt?_of_update {place : Location} {new? : Option (Node Content)}
    (hafter : ∀ location, after.nodeAt? location =
      if location = place then new? else volume.nodeAt? location) (location : Location) :
    after.contentAt? location =
      if location = place then new?.bind Node.content? else volume.contentAt? location := by
  rw [contentAt?_eq_bind, contentAt?_eq_bind, hafter]
  split <;> rfl

/-! ## Following paths -/

theorem nodeAt?_dropLast {location : Location}
    (hdirectory : volume.nodeAt? location = some .directory) :
    volume.nodeAt? location.dropLast = some .directory := by
  obtain rfl | ⟨around, name, rfl⟩ := List.eq_nil_or_concat' location
  · exact hdirectory
  · rw [List.dropLast_concat]
    exact nodeAt?_of_concat (by rw [hdirectory]; rfl)

theorem follow?_nil (volume : Volume) (here : Location) : volume.follow? here [] = some here := by
  rw [follow?]

theorem follow?_cons_eq_some {here there : Location} {piece : String} {rest : List String} :
    volume.follow? here (piece :: rest) = some there ↔
      volume.nodeAt? here = some .directory ∧ (volume.nodeAt? (Path.step here piece)).isSome ∧
        volume.follow? (Path.step here piece) rest = some there := by
  rw [follow?]
  split
  next entries hentries =>
    have hhere := nodeAt?_eq_directory.mpr ⟨entries, hentries⟩
    rw [Path.step]
    split_ifs with hstay hback hfound
    · simp [hhere]
    · simp [hhere, nodeAt?_dropLast hhere]
    · rw [hhere, nodeAt?, Option.isSome_map, hfound]
      simp
    · simp [nodeAt?, hfound]
  next hnone =>
    have hhere : volume.nodeAt? here ≠ some .directory := fun hdirectory =>
      (nodeAt?_eq_directory.mp hdirectory).elim hnone
    simp [hhere]

theorem follow?_append (volume : Volume) (here : Location) (first second : List String) :
    volume.follow? here (first ++ second) =
      (volume.follow? here first).bind (volume.follow? · second) := by
  induction first generalizing here with
  | nil => rw [List.nil_append, follow?_nil, Option.bind_some]
  | cons piece rest ih =>
      refine Option.ext fun there => ?_
      rw [List.cons_append, Option.bind_eq_some_iff]
      simp only [follow?_cons_eq_some, ih, Option.bind_eq_some_iff]
      grind

theorem follow?_concat_eq_some {here there : Location} {pieces : List String} {last : String} :
    volume.follow? here (pieces ++ [last]) = some there ↔
      ∃ around, volume.follow? here pieces = some around ∧
        volume.nodeAt? around = some .directory ∧ there = Path.step around last ∧
          (volume.nodeAt? there).isSome := by
  rw [follow?_append, Option.bind_eq_some_iff]
  refine exists_congr fun around => and_congr_right fun _ => ?_
  rw [follow?_cons_eq_some, follow?_nil, Option.some_inj]
  grind

/-- A path leads to its place or nowhere. -/
theorem follow?_eq_foldl_step {here there : Location} {pieces : List String}
    (hthere : volume.follow? here pieces = some there) : there = pieces.foldl Path.step here := by
  induction pieces generalizing here with
  | nil => exact (Option.some.inj ((follow?_nil volume here).symm.trans hthere)).symm
  | cons piece rest ih => exact ih (follow?_cons_eq_some.mp hthere).2.2

/-- Every directory on the way is still one, so a path that leads to a directory still does. -/
theorem follow?_of_directories {here there : Location} {pieces : List String}
    (hdirectories : ∀ location, volume.nodeAt? location = some .directory →
      after.nodeAt? location = some .directory)
    (hthere : volume.follow? here pieces = some there)
    (hdirectory : volume.nodeAt? there = some .directory) :
    after.follow? here pieces = some there := by
  induction pieces generalizing here with
  | nil => rwa [follow?_nil] at hthere ⊢
  | cons piece rest ih =>
      obtain ⟨hhere, -, hrest⟩ := follow?_cons_eq_some.mp hthere
      -- What is followed further is a directory, and the end is one by assumption.
      have hnext : volume.nodeAt? (Path.step here piece) = some .directory := by
        cases rest with
        | nil =>
            rw [follow?_nil, Option.some_inj] at hrest
            rwa [hrest]
        | cons second more => exact (follow?_cons_eq_some.mp hrest).1
      rw [follow?_cons_eq_some, hdirectories _ hnext]
      exact ⟨hdirectories _ hhere, rfl, ih hrest⟩

theorem locate?_eq_some {path : Path} {location : Location} :
    volume.locate? path = some location ↔
      path.isUsable ∧ volume.follow? [] path.pieces = some location := by
  rw [locate?]
  split_ifs with husable <;> simp [husable]

theorem eq_place_of_locate? {path : Path} {location : Location}
    (hlocation : volume.locate? path = some location) : location = path.place :=
  follow?_eq_foldl_step (locate?_eq_some.mp hlocation).2

/-- A path that leads to something leads to what stands at its place. -/
theorem find?_eq_some {path : Path} {found : Volume} (hfound : volume.find? path = some found) :
    volume.locate? path = some path.place ∧ volume.at? path.place = some found := by
  obtain ⟨location, hlocation, hfound⟩ := Option.bind_eq_some_iff.mp hfound
  rw [← eq_place_of_locate? hlocation]
  exact ⟨hlocation, hfound⟩

theorem readText?_eq_some {path : Path} {text : String}
    (htext : volume.readText? path = some text) :
    volume.contentAt? path.place = some (.text text) := by
  obtain ⟨found, hfound, htext⟩ := Option.bind_eq_some_iff.mp htext
  obtain ⟨content, hcontent, htext⟩ := Option.bind_eq_some_iff.mp htext
  rw [contentAt?, (find?_eq_some hfound).2, Option.bind_some, hcontent]
  cases content with
  | text written => exact congrArg (some ∘ Content.text) (Option.some.inj htext)
  | bytes bytes => contradiction

/-! ## Files in directories -/

/-- A path ends with a name in a directory. -/
structure EndsIn (volume : Volume) (path : Path) (around : Location) (name : String) : Prop where
  isUsable : path.isUsable
  last : path.pieces.getLast? = some name
  leads : volume.follow? [] path.pieces.dropLast = some around
  isDirectory : volume.nodeAt? around = some .directory

namespace EndsIn

variable {path : Path} {around location : Location} {name : String}

theorem place (hends : volume.EndsIn path around name) :
    path.place = Path.step around name := by
  have hpieces : path.pieces = path.pieces.dropLast ++ [name] :=
    (List.dropLast_append_getLast? name hends.last).symm
  rw [Path.place, hpieces, List.foldl_append, ← follow?_eq_foldl_step hends.leads]
  rfl

theorem place_of_isEntryName (hends : volume.EndsIn path around name)
    (hname : Path.isEntryName name) : path.place = around ++ [name] := by
  rw [hends.place]
  exact Path.step_of_isEntryName hname around

theorem of_locate? (hlocate : volume.locate? path = some location) :
    ∃ around name, volume.EndsIn path around name := by
  obtain ⟨husable, hfollow⟩ := locate?_eq_some.mp hlocate
  obtain ⟨name, hlast⟩ : ∃ name, path.pieces.getLast? = some name :=
    ⟨_, List.getLast?_eq_some_getLast path.pieces_ne_nil⟩
  rw [← List.dropLast_append_getLast? name hlast] at hfollow
  obtain ⟨around, haround, hdirectory, -⟩ := follow?_concat_eq_some.mp hfollow
  exact ⟨around, name, husable, hlast, haround, hdirectory⟩

/-- A path leads to what stands under its last name. -/
theorem locate? (hends : volume.EndsIn path around name)
    (hfound : (volume.nodeAt? path.place).isSome) : volume.locate? path = some path.place := by
  refine locate?_eq_some.mpr ⟨hends.isUsable, ?_⟩
  rw [← List.dropLast_append_getLast? name hends.last]
  exact follow?_concat_eq_some.mpr ⟨around, hends.leads, hends.isDirectory, hends.place, hfound⟩

/-- A path that leads to a file ends with its name. -/
theorem place_of_file {content : Content} (hends : volume.EndsIn path around name)
    (hfile : volume.nodeAt? path.place = some (.file content)) :
    path.place = around ++ [name] := by
  -- The other pieces lead to directories.
  have hnode {location : Location} (hdirectory : volume.nodeAt? location = some .directory) :
      path.place ≠ location := by
    rintro rfl
    rw [hdirectory] at hfile
    simp at hfile
  have hstep := hends.place
  rw [Path.step] at hstep
  split_ifs at hstep
  · exact absurd hstep (hnode hends.isDirectory)
  · exact absurd hstep (hnode (nodeAt?_dropLast hends.isDirectory))
  · exact hstep

end EndsIn

/-! ## Making and replacing files -/

/-- A file can be made or replaced under a name that a directory can have, unless that is a
directory itself. -/
theorem target?_eq_some {path : Path} {location : Location} :
    volume.target? path = some location ↔
      ∃ around name, volume.EndsIn path around name ∧ Path.isEntryName name ∧
        location = around ++ [name] ∧
          ∀ old ∈ volume.at? location, old.isDirectory = false := by
  simp only [target?, Option.bind_eq_bind, Option.bind_eq_some_iff, Option.guard_eq_some']
  constructor
  · rintro ⟨-, husable, name, hlast, -, hname, around, haround, found, hfound, hlocation⟩
    cases found with
    | directory entries =>
        obtain ⟨_, hfree, hlocation⟩ := Option.bind_eq_some_iff.mp hlocation
        cases Option.some.inj hlocation
        have hdirectory := nodeAt?_eq_directory.mpr ⟨entries, hfound⟩
        refine ⟨around, name, ⟨husable, hlast, haround, hdirectory⟩, hname, rfl, ?_⟩
        intro old hold
        rw [Option.guard_eq_some', Option.mem_def.mp hold] at hfree
        simpa using hfree
    | file content => contradiction
    | closed => contradiction
  · rintro ⟨around, name, hends, hname, rfl, hfree⟩
    obtain ⟨entries, hentries⟩ := nodeAt?_eq_directory.mp hends.isDirectory
    refine ⟨(), hends.isUsable, name, hends.last, (), hname, around, hends.leads, _, hentries, ?_⟩
    refine Option.bind_eq_some_iff.mpr ⟨(), (Option.guard_eq_some' ()).mpr ?_, rfl⟩
    cases hold : volume.at? (around ++ [name]) with
    | none => rfl
    | some old => simp [hfree old hold]

theorem isBare_of_isDirectory_eq_false {tree : Volume} (hfile : tree.isDirectory = false) :
    tree.IsBare := by
  cases tree with
  | file content => exact isBare_file content
  | directory entries => contradiction
  | closed => contradiction

section Write

variable {path : Path} {text : String}

theorem exists_endsIn_of_write? (hwrite : volume.write? path text = some after) :
    ∃ around name, volume.EndsIn path around name ∧ Path.isEntryName name := by
  obtain ⟨location, htarget, -⟩ := Option.bind_eq_some_iff.mp hwrite
  obtain ⟨around, name, hends, hname, -⟩ := target?_eq_some.mp htarget
  exact ⟨around, name, hends, hname⟩

/-- A file that is made or replaced stands at the place of its path, and nothing else has
changed. -/
theorem nodeAt?_write? (hwrite : volume.write? path text = some after) (location : Location) :
    after.nodeAt? location =
      if location = path.place then some (.file (.text text)) else volume.nodeAt? location := by
  obtain ⟨target, htarget, hafter⟩ := Option.bind_eq_some_iff.mp hwrite
  cases Option.some.inj hafter
  obtain ⟨around, name, hends, hname, rfl, hfree⟩ := target?_eq_some.mp htarget
  have hbare : ∀ old ∈ volume.at? (around ++ [name]), old.IsBare :=
    fun old hold => isBare_of_isDirectory_eq_false (hfree old hold)
  rw [hends.place_of_isEntryName hname]
  exact nodeAt?_put hends.isDirectory hbare (isBare_file (.text text)) location

theorem HasEntryNames.of_write? (hnames : volume.HasEntryNames)
    (hwrite : volume.write? path text = some after) : after.HasEntryNames := by
  obtain ⟨around, name, hends, hname⟩ := exists_endsIn_of_write? hwrite
  have hupdate := nodeAt?_write? hwrite
  rw [hends.place_of_isEntryName hname] at hupdate
  exact hnames.update hends.isDirectory hname hupdate

/-- Where a file can be made and no path leads, nothing stands. -/
theorem nodeAt?_place_of_absent (habsent : volume.find? path = none)
    (hwrite : volume.write? path text = some after) : volume.nodeAt? path.place = none := by
  obtain ⟨around, name, hends, -⟩ := exists_endsIn_of_write? hwrite
  by_contra hfound
  have hlocate := hends.locate? (Option.isSome_iff_ne_none.mpr hfound)
  rw [find?, hlocate] at habsent
  exact hfound (by rw [nodeAt?, show volume.at? path.place = none from habsent]; rfl)

end Write

/-! ## Removing files -/

section Remove

variable {path : Path}

/-- What is removed is a file under the last name of a path, in a directory. -/
theorem exists_endsIn_of_remove? (hremove : volume.remove? path = some after) :
    ∃ around name content, volume.EndsIn path around name ∧
      volume.at? path.place = some (.file content) ∧ path.place = around ++ [name] ∧
        after = volume.erase path.place := by
  obtain ⟨location, hlocate, hremove⟩ := Option.bind_eq_some_iff.mp hremove
  cases eq_place_of_locate? hlocate
  obtain ⟨found, hfound, hremove⟩ := Option.bind_eq_some_iff.mp hremove
  obtain ⟨around, name, hends⟩ := EndsIn.of_locate? hlocate
  cases found with
  | directory entries => contradiction
  | closed => contradiction
  | file content =>
      have hplace := hends.place_of_file (nodeAt?_eq_file.mpr hfound)
      exact ⟨around, name, content, hends, hfound, hplace, (Option.some.inj hremove).symm⟩

/-- Where a file has been removed nothing stands, and nothing else has changed. -/
theorem nodeAt?_remove? (hremove : volume.remove? path = some after) (location : Location) :
    after.nodeAt? location =
      if location = path.place then none else volume.nodeAt? location := by
  obtain ⟨around, name, content, hends, hfile, hplace, rfl⟩ := exists_endsIn_of_remove? hremove
  rw [hplace] at hfile ⊢
  refine nodeAt?_erase hends.isDirectory (fun old hold => ?_) location
  rw [hfile] at hold
  cases hold
  exact isBare_file content

theorem HasEntryNames.of_remove? (hnames : volume.HasEntryNames)
    (hremove : volume.remove? path = some after) : after.HasEntryNames := by
  intro location hlocation
  rw [nodeAt?_remove? hremove] at hlocation
  split at hlocation
  · contradiction
  · exact hnames location hlocation

/-- A file that has been removed can be made again. -/
theorem exists_write?_of_remove? {removed : Volume} (hnames : volume.HasEntryNames)
    (hremove : volume.remove? path = some removed) (text : String) :
    ∃ after, removed.write? path text = some after := by
  obtain ⟨around, name, content, hends, hfile, hplace, -⟩ := exists_endsIn_of_remove? hremove
  have hremoved := nodeAt?_remove? hremove
  have hnode : volume.nodeAt? path.place = some (.file content) := nodeAt?_eq_file.mpr hfile
  -- The file was there, so its name is one that a directory can have.
  have hname : Path.isEntryName name :=
    hnames path.place (by rw [hnode]; rfl) name (by simp [hplace])
  have hdirectories : ∀ location, volume.nodeAt? location = some .directory →
      removed.nodeAt? location = some .directory := by
    intro location hlocation
    have hne : location ≠ path.place := by
      rintro rfl
      rw [hnode] at hlocation
      simp at hlocation
    rw [hremoved, if_neg hne, hlocation]
  have hendsThen : removed.EndsIn path around name :=
    ⟨hends.isUsable, hends.last, follow?_of_directories hdirectories hends.leads hends.isDirectory,
      hdirectories _ hends.isDirectory⟩
  have htarget : removed.target? path = some path.place := by
    refine target?_eq_some.mpr ⟨around, name, hendsThen, hname, hplace, fun old hold => ?_⟩
    have hnone := hremoved path.place
    rw [if_pos rfl, nodeAt?, Option.mem_def.mp hold] at hnone
    contradiction
  exact ⟨_, Option.bind_eq_some_iff.mpr ⟨_, htarget, rfl⟩⟩

end Remove

/-! ## Making directories -/

theorem keeps_put_directory {around : Location} {name : String}
    (haround : volume.nodeAt? around = some .directory)
    (hfree : volume.at? (around ++ [name]) = none) (hname : Path.isEntryName name) :
    Keeps volume (volume.put (around ++ [name]) (directory [])) := by
  have hbare : ∀ old ∈ volume.at? (around ++ [name]), old.IsBare := by simp [hfree]
  have hupdate := nodeAt?_put haround hbare isBare_directory_nil
  refine ⟨fun location => ?_, fun hnames => hnames.update haround hname hupdate⟩
  rw [contentAt?_of_update hupdate]
  split
  next hlocation => rw [hlocation, contentAt?, hfree]; rfl
  next => rfl

theorem makeAll_keeps (here : Location) (components : List Path.Component) (volume : Volume) :
    Keeps volume (makeAll here components volume).2 := by
  induction components generalizing here volume with
  | nil => exact .refl volume
  | cons component rest ih =>
      cases component with
      | root => exact ih here volume
      | here => exact ih here volume
      | up => exact ih here.dropLast volume
      | name name =>
          rw [makeAll]
          split
          next entries found hentries hfound =>
            split
            · exact ih (here ++ [name]) volume
            · exact .refl volume
          next entries hentries hfree =>
            split
            next hname =>
              have hhere := nodeAt?_eq_directory.mpr ⟨entries, hentries⟩
              exact (keeps_put_directory hhere hfree hname).trans (ih (here ++ [name]) _)
            · exact .refl volume
          next => exact .refl volume

/-- Directories may be made, but no file is changed, whether or not all could be made. -/
theorem makeDirectories_keeps (volume : Volume) (path : Path) :
    Keeps volume (volume.makeDirectories path).2 := by
  rw [makeDirectories]
  split_ifs
  · exact .refl volume
  · exact .refl volume
  · exact makeAll_keeps [] _ volume
  · exact makeAll_keeps [] _ volume

/-! ## Calls -/

section Access

variable (refuses : FileCall → Bool) (volume : Volume) (path : Path)

theorem access_isPresent_run : ((access refuses).isPresent path).run volume =
    ((volume.find? path).isSome, volume) :=
  rfl

theorem access_isDirectory_run : ((access refuses).isDirectory path).run volume =
    (volume.hasDirectory path, volume) :=
  rfl

theorem access_list?_run : ((access refuses).list? path).run volume =
    ((volume.find? path).map (FileTree.map fun _ => ()), volume) :=
  rfl

theorem access_readText?_run : ((access refuses).readText? path).run volume =
    (if refuses .readText then none else volume.readText? path, volume) := by
  cases hrefused : refuses .readText <;> simp [access, hrefused] <;> rfl

theorem access_makeDirectories_run : ((access refuses).makeDirectories path).run volume =
    if refuses .makeDirectories then (false, volume) else volume.makeDirectories path := by
  cases hrefused : refuses .makeDirectories <;> simp [access, hrefused] <;> rfl

theorem access_remove_run : ((access refuses).remove path).run volume =
    (if refuses .remove then none else volume.remove? path).elim (false, volume) (true, ·) := by
  cases hrefused : refuses .remove <;> cases hremoved : volume.remove? path <;>
    simp [access, hrefused, hremoved] <;> rfl

theorem access_write_run (text : String) : ((access refuses).write path text).run volume =
    (if refuses .write then none else volume.write? path text).elim (false, volume)
      (true, ·) := by
  cases hrefused : refuses .write <;> cases hwritten : volume.write? path text <;>
    simp [access, hrefused, hwritten] <;> rfl

end Access

end Volume

end RouteSurvey
