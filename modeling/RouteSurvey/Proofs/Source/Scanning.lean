import Mathlib.Data.List.Sort
import Mathlib.Data.String.Basic
import RouteSurvey.Input
import RouteSurvey.Proofs.Action
import RouteSurvey.Proofs.Files.Volume
import RouteSurvey.Proofs.Text.Bytes

/-! # What a scan finds

A step of a walk asks only for the name of an entry and whether it is a directory. So the
files that are found can be told from their locations alone. Siblings come in the order of
their names, and so the paths come in the order of their components.
-/

namespace RouteSurvey

open RouteSurvey.Path (IsPlain)

variable {α β : Type}

namespace FileTree

/-- Every directory can be listed. Its entries have different names, and each of these is a
component of its own. -/
inductive IsReadable : FileTree α → Prop where
  | file (content : α) : IsReadable (file content)
  | directory {entries : List (String × FileTree α)} (hnames : (entries.map (·.1)).Nodup)
      (hplain : ∀ entry ∈ entries, IsPlain entry.1)
      (hentries : ∀ entry ∈ entries, IsReadable entry.2) : IsReadable (directory entries)

theorem IsReadable.isPlain {tree found : FileTree α} {location : Location}
    (hreadable : tree.IsReadable) (hfound : tree.at? location = some found) :
    ∀ name ∈ location, IsPlain name := by
  induction location generalizing tree with
  | nil => exact fun name hname => absurd hname List.not_mem_nil
  | cons first rest ih =>
      obtain ⟨entries, child, rfl, hchild, hrest⟩ := at?_cons_eq_some hfound
      cases hreadable with
      | directory hnames hplain hentries =>
          have hmem := (lookup_eq_some_iff_mem hnames).mp hchild
          exact List.forall_mem_cons.mpr ⟨hplain _ hmem, ih (hentries _ hmem) hrest⟩

/-- A tree with a file at a location is a directory unless it is that file. -/
theorem isDirectory_iff_ne_nil {tree : FileTree α} {location : Location} {content : α}
    (hfile : tree.at? location = some (file content)) :
    tree.isDirectory = true ↔ location ≠ [] := by
  cases location with
  | nil =>
      rw [at?_nil, Option.some_inj] at hfile
      simp [hfile, isDirectory]
  | cons name rest =>
      obtain ⟨entries, child, rfl, -, -⟩ := at?_cons_eq_some hfile
      simp [isDirectory]

theorem isDirectory_map (f : α → β) (tree : FileTree α) :
    (tree.map f).isDirectory = tree.isDirectory := by
  cases tree <;> simp [map, isDirectory]

end FileTree

namespace Source

open FileTree

/-! ## Locations of sources -/

/-- Names that can lead to a source file. The last one has the extension of sources, none is
hidden, and none of those in front of the last one is that of built files. -/
@[mk_iff]
structure LeadToSource (location : Location) : Prop where
  extension : ∀ name ∈ location.getLast?, ∃ stem ≠ "", name = stem ++ ".rs"
  visible : ∀ name ∈ location, name.toList.head? ≠ some '.'
  notBuilt : "target" ∉ location.dropLast

/-- A source file stands at the location in a tree. -/
def IsSourceAt (tree : FileTree α) (location : Location) : Prop :=
  (∃ content, tree.at? location = some (file content)) ∧ LeadToSource location

section Steps

variable {entries : List (String × FileTree α)} {name : String} {rest : Location}

theorem extensionOf?_eq_extension : Path.extensionOf? name = some extension ↔
    ∃ stem ≠ "", name = stem ++ ".rs" := by
  rw [Path.extensionOf?_eq_some (by decide)]
  have hending (stem : String) : stem ++ "." ++ extension = stem ++ ".rs" := String.append_assoc
  simp only [hending]

theorem isWalked_iff {tree : FileTree α} : isWalked name tree = true ↔
    name.toList.head? ≠ some '.' ∧
      if tree.isDirectory then name ≠ "target" else ∃ stem ≠ "", name = stem ++ ".rs" := by
  rw [isWalked, isHidden, ← extensionOf?_eq_extension, Bool.and_eq_true]
  refine and_congr (by simp) ?_
  split
  · exact decide_eq_true_iff
  · exact beq_iff_eq

/-- The name in front is that of the file if nothing is behind it, and that of a directory
otherwise. -/
theorem leadToSource_cons {child : FileTree α} {content : α}
    (hfile : child.at? rest = some (file content)) :
    LeadToSource (name :: rest) ↔ isWalked name child = true ∧ LeadToSource rest := by
  have hdirectory := isDirectory_iff_ne_nil hfile
  cases rest with
  | nil =>
      have hnone : child.isDirectory = false := by simpa using hdirectory
      simp [leadToSource_iff, isWalked_iff, hnone, and_comm]
  | cons second more =>
      have hbetween : child.isDirectory = true := by simpa using hdirectory
      rw [leadToSource_iff, leadToSource_iff, isWalked_iff, if_pos hbetween,
        List.getLast?_cons_cons, List.dropLast_cons_cons, List.mem_cons, not_or,
        List.forall_mem_cons, ne_comm]
      tauto

theorem isSourceAt_file {content : α} {location : Location} :
    IsSourceAt (file content) location ↔ location = [] := by
  constructor
  · rintro ⟨⟨found, hfound⟩, -⟩
    by_contra hlocation
    simpa [isDirectory] using (isDirectory_iff_ne_nil hfound).mpr hlocation
  · rintro rfl
    exact ⟨⟨content, at?_nil _⟩, by simp, by simp, by simp⟩

theorem not_isSourceAt_nil : ¬IsSourceAt (directory entries) [] := by
  rintro ⟨⟨content, hfile⟩, -⟩
  exact (isDirectory_iff_ne_nil hfile).mp rfl rfl

/-- A source below a directory is one below an entry that is walked. -/
theorem isSourceAt_cons : IsSourceAt (directory entries) (name :: rest) ↔
    ∃ child, entries.lookup name = some child ∧ isWalked name child = true ∧
      IsSourceAt child rest := by
  constructor
  · rintro ⟨⟨content, hfile⟩, hnames⟩
    obtain ⟨_, child, ⟨⟩, hchild, hrest⟩ := at?_cons_eq_some hfile
    obtain ⟨hwalked, hbelow⟩ := (leadToSource_cons hrest).mp hnames
    exact ⟨child, hchild, hwalked, ⟨content, hrest⟩, hbelow⟩
  · rintro ⟨child, hchild, hwalked, ⟨content, hrest⟩, hbelow⟩
    refine ⟨⟨content, ?_⟩, (leadToSource_cons hrest).mpr ⟨hwalked, hbelow⟩⟩
    rw [at?_cons, child?, hchild]
    exact hrest

end Steps

/-! ## Findings -/

section Findings

theorem entryFindings_eq_map (path : Path) (entries : List (String × FileTree α)) :
    entryFindings path entries = (entries.filter fun entry => isWalked entry.1 entry.2).map
      fun entry => (entry.1, findings (path.join ⟨entry.1⟩) entry.2) := by
  induction entries with
  | nil =>
      rw [entryFindings]
      rfl
  | cons entry rest ih =>
      obtain ⟨name, tree⟩ := entry
      rw [entryFindings, List.filter_cons, ih]
      split <;> rfl

theorem mem_findings_directory {path : Path} {entries : List (String × FileTree α)}
    {finding : Finding} : finding ∈ findings path (directory entries) ↔
      ∃ entry ∈ entries, isWalked entry.1 entry.2 = true ∧
        finding ∈ findings (path.join ⟨entry.1⟩) entry.2 := by
  rw [findings, List.mem_flatMap, entryFindings_eq_map]
  simp only [List.mem_mergeSort, List.mem_map, List.mem_filter]
  constructor
  · rintro ⟨found, ⟨entry, ⟨hentry, hwalked⟩, rfl⟩, hfinding⟩
    exact ⟨entry, hentry, hwalked, hfinding⟩
  · rintro ⟨entry, hentry, hwalked, hfinding⟩
    exact ⟨_, ⟨entry, ⟨hentry, hwalked⟩, rfl⟩, hfinding⟩

/-- A walk comes across the sources of a readable tree, and nothing else. -/
theorem mem_findings {tree : FileTree α} (hreadable : tree.IsReadable) {path : Path}
    {finding : Finding} : finding ∈ findings path tree ↔
      ∃ location, IsSourceAt tree location ∧ finding = .source (path.joinAll location) := by
  induction hreadable generalizing path with
  | file content =>
      rw [findings, List.mem_singleton]
      simp only [isSourceAt_file, exists_eq_left]
      rfl
  | @directory entries hnames _ _ ih =>
      -- The names differ, so a location leads to the very entry that was walked.
      rw [mem_findings_directory]
      constructor
      · rintro ⟨⟨name, child⟩, hentry, hwalked, hfinding⟩
        obtain ⟨rest, hrest, rfl⟩ := (ih _ hentry).mp hfinding
        have hchild := (lookup_eq_some_iff_mem hnames).mpr hentry
        exact ⟨name :: rest, isSourceAt_cons.mpr ⟨child, hchild, hwalked, hrest⟩, rfl⟩
      · rintro ⟨location, hsource, rfl⟩
        cases location with
        | nil => exact absurd hsource not_isSourceAt_nil
        | cons name rest =>
            obtain ⟨child, hchild, hwalked, hrest⟩ := isSourceAt_cons.mp hsource
            have hentry := (lookup_eq_some_iff_mem hnames).mp hchild
            exact ⟨(name, child), hentry, hwalked, (ih _ hentry).mpr ⟨rest, hrest, rfl⟩⟩

end Findings

/-! ## The order of findings -/

section Order

/-- Where a finding stands. -/
def Finding.path : Finding → Path
  | source path => path
  | closed path => path

/-- A path comes before another one in the order of their components as bytes. -/
def Precedes (first second : Path) : Prop :=
  first.components.map (Text.bytes ·.text) < second.components.map (Text.bytes ·.text)

instance (first second : Path) : Decidable (Precedes first second) :=
  inferInstanceAs (Decidable (_ < _))

theorem Precedes.irrefl (path : Path) : ¬Precedes path path :=
  List.lt_irrefl _

theorem precedes_joinAll (path : Path) {name name' : String} {rest rest' : Location}
    (hlt : name < name') (hplain : ∀ part ∈ name :: rest, IsPlain part)
    (hplain' : ∀ part ∈ name' :: rest', IsPlain part) :
    Precedes (path.joinAll (name :: rest)) (path.joinAll (name' :: rest')) := by
  rw [Precedes, Path.components_joinAll path hplain, Path.components_joinAll path hplain',
    List.map_append, List.map_append]
  refine List.append_left_lt (List.cons_lt_cons_iff.mpr (.inl ?_))
  exact Text.bytes_lt hlt

-- In the order of their texts the first of these paths would be the last.
example : Precedes ⟨"/root/a/z.rs"⟩ ⟨"/root/a-b/x.rs"⟩ ∧
    Precedes ⟨"/root/a-b/x.rs"⟩ ⟨"/root/a.rs"⟩ := by decide +kernel

/-- Siblings have different names, so no two of them are equal in the order. -/
theorem entryFindings_sorted (path : Path) {entries : List (String × FileTree α)}
    (hnames : (entries.map (·.1)).Nodup) :
    ((entryFindings path entries).mergeSort fun a b => a.1 ≤ b.1).Pairwise
      fun a b => a.1 < b.1 := by
  have hdistinct : (entryFindings path entries).Pairwise fun a b => a.1 ≠ b.1 := by
    rw [entryFindings_eq_map, List.pairwise_map]
    exact (List.pairwise_map.mp hnames).filter _
  have hsorted : ((entryFindings path entries).mergeSort fun a b => a.1 ≤ b.1).Pairwise
      fun a b => decide (a.1 ≤ b.1) = true := by
    refine List.pairwise_mergeSort (fun a b c hab hbc => ?_) (fun a b => ?_) _
    · exact decide_eq_true ((of_decide_eq_true hab).trans (of_decide_eq_true hbc))
    · simpa using le_total a.1 b.1
  refine hsorted.imp₂ ?_ ((List.mergeSort_perm _ _).pairwise_iff Ne.symm |>.mpr hdistinct)
  intro a b hle hne
  exact lt_of_le_of_ne (of_decide_eq_true hle) hne

/-- Everything below an entry is a source whose path goes through the name of the entry. -/
theorem exists_of_mem_entryFindings {path : Path} {entries : List (String × FileTree α)}
    (hplain : ∀ entry ∈ entries, IsPlain entry.1)
    (hentries : ∀ entry ∈ entries, entry.2.IsReadable) {found : String × List Finding}
    (hfound : found ∈ entryFindings path entries) {finding : Finding}
    (hfinding : finding ∈ found.2) :
    ∃ rest, (∀ part ∈ found.1 :: rest, IsPlain part) ∧
      finding.path = path.joinAll (found.1 :: rest) := by
  rw [entryFindings_eq_map] at hfound
  obtain ⟨entry, hentry, rfl⟩ := List.mem_map.mp hfound
  have hmem := List.mem_of_mem_filter hentry
  obtain ⟨rest, ⟨⟨content, hfile⟩, -⟩, rfl⟩ := (mem_findings (hentries _ hmem)).mp hfinding
  have hrest := (hentries _ hmem).isPlain hfile
  exact ⟨rest, List.forall_mem_cons.mpr ⟨hplain _ hmem, hrest⟩, rfl⟩

/-- Whatever a walk comes across below one of two siblings comes before everything below the
other one. -/
theorem findings_pairwise {tree : FileTree α} (hreadable : tree.IsReadable) (path : Path) :
    (findings path tree).Pairwise fun a b => Precedes a.path b.path := by
  induction hreadable generalizing path with
  | file content =>
      rw [findings]
      exact List.pairwise_singleton _ _
  | @directory entries hnames hplain hentries ih =>
      rw [findings, List.pairwise_flatMap]
      constructor
      · intro found hfound
        rw [List.mem_mergeSort, entryFindings_eq_map] at hfound
        obtain ⟨entry, hentry, rfl⟩ := List.mem_map.mp hfound
        exact ih _ (List.mem_of_mem_filter hentry) _
      · refine (entryFindings_sorted path hnames).imp_of_mem ?_
        intro found found' hfound hfound' hlt finding hfinding finding' hfinding'
        rw [List.mem_mergeSort] at hfound hfound'
        obtain ⟨rest, hrest, hpath⟩ :=
          exists_of_mem_entryFindings hplain hentries hfound hfinding
        obtain ⟨rest', hrest', hpath'⟩ :=
          exists_of_mem_entryFindings hplain hentries hfound' hfinding'
        rw [hpath, hpath']
        exact precedes_joinAll path hlt hrest hrest'

end Order

/-! ## Scans of volumes -/

mutual

theorem findings_map (f : α → β) (path : Path) (tree : FileTree α) :
    findings path (tree.map f) = findings path tree :=
  match tree with
  | .file content => by rw [FileTree.map, findings, findings]
  | .closed => by rw [FileTree.map, findings, findings]
  | .directory entries => by
      rw [FileTree.map, findings, findings, entryFindings_map f path entries]

theorem entryFindings_map (f : α → β) (path : Path) (entries : List (String × FileTree α)) :
    entryFindings path (mapEntries f entries) = entryFindings path entries :=
  match entries with
  | [] => by rw [mapEntries, entryFindings, entryFindings]
  | (name, tree) :: rest => by
      have hwalked : isWalked name (tree.map f) = isWalked name tree := by
        rw [isWalked, isWalked, isDirectory_map]
      rw [mapEntries, entryFindings, entryFindings, hwalked, findings_map f _ tree,
        entryFindings_map f path rest]

end

section Scans

variable {tree : FileTree α} (hreadable : tree.IsReadable) (root : Path)

include hreadable

theorem mem_files_ofTree {path : Path} : path ∈ (Scan.ofTree root tree).files ↔
    ∃ location, IsSourceAt tree location ∧ path = root.joinAll location := by
  rw [Scan.ofTree, List.mem_filterMap]
  constructor
  · rintro ⟨finding, hfinding, hpath⟩
    obtain ⟨location, hsource, rfl⟩ := (mem_findings hreadable).mp hfinding
    exact ⟨location, hsource, (Option.some.inj hpath).symm⟩
  · rintro ⟨location, hsource, rfl⟩
    exact ⟨_, (mem_findings hreadable).mpr ⟨location, hsource, rfl⟩, rfl⟩

theorem closed_ofTree : (Scan.ofTree root tree).closed = [] := by
  rw [Scan.ofTree, List.filterMap_eq_nil_iff]
  intro finding hfinding
  obtain ⟨location, -, rfl⟩ := (mem_findings hreadable).mp hfinding
  rfl

theorem files_ofTree_pairwise : (Scan.ofTree root tree).files.Pairwise Precedes := by
  rw [Scan.ofTree, List.pairwise_filterMap]
  refine (findings_pairwise hreadable root).imp ?_
  intro first second hprecedes path hpath path' hpath'
  cases first with
  | closed found => contradiction
  | source found =>
      cases second with
      | closed found' => contradiction
      | source found' => rwa [← Option.some.inj hpath, ← Option.some.inj hpath']

/-- The files of a scan stand at the locations of the sources, each only once. -/
theorem exists_locations_files_ofTree : ∃ locations : List Location,
    locations.map root.joinAll = (Scan.ofTree root tree).files ∧ locations.Nodup ∧
      ∀ location, location ∈ locations ↔ IsSourceAt tree location := by
  have hplain {location : Location} (hsource : IsSourceAt tree location) :
      ∀ name ∈ location, IsPlain name := by
    obtain ⟨⟨content, hfile⟩, -⟩ := hsource
    exact hreadable.isPlain hfile
  choose! locationOf hsource hpath using
    fun path (hmem : path ∈ (Scan.ofTree root tree).files) =>
      (mem_files_ofTree hreadable root).mp hmem
  have hfiles : ((Scan.ofTree root tree).files.map locationOf).map root.joinAll =
      (Scan.ofTree root tree).files := by
    rw [List.map_map]
    exact (List.map_congr_left fun path hmem => (hpath path hmem).symm).trans (List.map_id _)
  refine ⟨_, hfiles, List.Nodup.of_map root.joinAll ?_, fun location => ⟨?_, fun hlocation => ?_⟩⟩
  · rw [hfiles]
    refine (files_ofTree_pairwise hreadable root).imp ?_
    rintro path _ hprecedes rfl
    exact Precedes.irrefl path hprecedes
  · intro hlocation
    obtain ⟨path, hmem, rfl⟩ := List.mem_map.mp hlocation
    exact hsource path hmem
  · -- The names are components of their own, so no other location has this path.
    have hmem := (mem_files_ofTree hreadable root).mpr ⟨location, hlocation, rfl⟩
    have hsame := Path.joinAll_inj (hplain hlocation) (hplain (hsource _ hmem)) (hpath _ hmem)
    exact List.mem_map.mpr ⟨_, hmem, hsame.symm⟩

end Scans

section Volumes

variable (refuses : FileCall → Bool) {volume tree : Volume} {root : Path}

theorem load_runOn (hroot : volume.find? root = some tree) (hdirectory : tree.isDirectory = true)
    (told : List Notice) : (Scan.load (Volume.access refuses) root).runOn told volume =
      ((.ok (Scan.ofTree root tree), told ++ (Scan.ofTree root tree).closed.map
        fun path => .directoryClosed path.text), volume) := by
  have hhas : volume.hasDirectory root = true := by
    rw [Volume.hasDirectory, hroot]
    exact hdirectory
  have hlisted : Scan.ofTree root (tree.map fun _ => ()) = Scan.ofTree root tree := by
    rw [Scan.ofTree, Scan.ofTree, findings_map]
  simp only [Scan.load, Action.runOn_bind, Action.runOn_ensure, Action.runOn_demand,
    Volume.access_isDirectory_run, Volume.access_list?_run, hhas, hroot, if_true,
    Option.map_some, Option.elim_some, Action.runOn_tell, Action.runOn_pure, hlisted]

/-- A scan of a readable tree finds the files with the extension of sources that are neither
hidden nor below something that is hidden or holds built files, and finds each only once. It
has nothing to tell, and the paths come in the order of their components as bytes. What the
root itself is called has no influence. Files whose names are not valid UTF-8 are outside the
model of trees. -/
theorem scan_finds_sources (hroot : volume.find? root = some tree)
    (hdirectory : tree.isDirectory = true) (hreadable : tree.IsReadable) :
    ∃ locations : List Location,
      (∀ told, (Scan.load (Volume.access refuses) root).runOn told volume =
        ((.ok ⟨locations.map root.joinAll, []⟩, told), volume)) ∧
      locations.Nodup ∧
      (∀ location, location ∈ locations ↔ IsSourceAt tree location) ∧
      (locations.map root.joinAll).Pairwise Precedes := by
  obtain ⟨locations, hfiles, hnodup, hlocations⟩ := exists_locations_files_ofTree hreadable root
  have hclosed := closed_ofTree hreadable root
  refine ⟨locations, fun told => ?_, hnodup, hlocations, ?_⟩
  · rw [load_runOn refuses hroot hdirectory, hclosed, List.map_nil, List.append_nil, hfiles,
      ← hclosed]
  · rw [hfiles]
    exact files_ofTree_pairwise hreadable root

end Volumes

/-! ## A root of the name of built files -/

namespace Project

def source : Volume :=
  .file (.text "")

/-- A directory with a module in two files, beside sources that are left out. -/
def entries : List (String × Volume) :=
  [("a.rs", source), ("a", .directory [("z.rs", source)]), (".b.rs", source),
    ("target", .directory [("built.rs", source)])]

/-- The project is itself called like the directory of built files. -/
def volume : Volume :=
  .directory [("target", .directory entries)]

theorem isReadable_of_source (name : String) (hplain : IsPlain name) :
    (directory [(name, source)]).IsReadable :=
  .directory (List.nodup_singleton _) (List.forall_mem_singleton.mpr hplain)
    (List.forall_mem_singleton.mpr (.file _))

theorem isReadable_entries : (directory entries).IsReadable := by
  refine .directory (by decide) (by decide) ?_
  simp only [entries, List.forall_mem_cons]
  exact ⟨.file _, isReadable_of_source _ (by decide), .file _,
    isReadable_of_source _ (by decide), by simp⟩

end Project

/-- The name of the root counts for nothing, but below it the same name is that of built
files. -/
theorem scan_finds_sources_in_target :
    Project.volume.find? ⟨"/target"⟩ = some (directory Project.entries) ∧
      (directory Project.entries).isDirectory = true ∧
      (directory Project.entries).IsReadable ∧
      ∃ locations : List Location,
        (∀ told, (Scan.load (Volume.access fun _ => false) ⟨"/target"⟩).runOn told
          Project.volume =
            ((.ok ⟨locations.map (Path.joinAll ⟨"/target"⟩), []⟩, told), Project.volume)) ∧
        ["a", "z.rs"] ∈ locations ∧ ["a.rs"] ∈ locations ∧ [".b.rs"] ∉ locations ∧
        ["target", "built.rs"] ∉ locations := by
  obtain ⟨locations, hrun, -, hlocations, -⟩ := scan_finds_sources (fun _ => false)
    (rfl : Project.volume.find? ⟨"/target"⟩ = some (directory Project.entries)) rfl
    Project.isReadable_entries
  refine ⟨rfl, rfl, Project.isReadable_entries, locations, hrun, ?_, ?_, ?_, ?_⟩
  · refine (hlocations _).mpr ⟨⟨.text "", rfl⟩, ?_, by decide, by decide⟩
    rintro _ ⟨⟩
    exact ⟨"z", by decide, rfl⟩
  · refine (hlocations _).mpr ⟨⟨.text "", rfl⟩, ?_, by decide, by decide⟩
    rintro _ ⟨⟩
    exact ⟨"a", by decide, rfl⟩
  · intro hmem
    exact absurd ((hlocations _).mp hmem).2.visible (by decide)
  · intro hmem
    exact absurd ((hlocations _).mp hmem).2.notBuilt (by decide)

end Source

end RouteSurvey
