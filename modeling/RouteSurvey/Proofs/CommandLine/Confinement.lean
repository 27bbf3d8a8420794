import RouteSurvey.Proofs.CommandLine.Effect

/-! # Reports in their directory

A report that is written stands in the output directory itself, under a plain name. The name
in a request is checked before the request is carried out and the default name is plain. A
name in a configuration is not checked, so for it this has to be assumed.
-/

namespace RouteSurvey.CommandLine

open FileTree Volume

/-- Nothing in the name separates the parts of a path. -/
def IsUnseparated (name : String) : Prop :=
  ∀ c ∈ name.toList, c ≠ '/' ∧ c ≠ '\\'

theorem isUnseparated_of_isPlainFileName {name : String} (hplain : isPlainFileName name) :
    IsUnseparated name := by
  simp only [isPlainFileName, Bool.and_eq_true, List.all_eq_true, decide_eq_true_eq] at hplain
  exact hplain.2

/-- Where the name of a report comes from: the request, a configuration or the default. -/
inductive NameOrigin (request : Request) (volume : Volume) : String → Prop where
  | request {name : String} (hname : request.fileName? = some name) :
      NameOrigin request volume name
  | config {path : Path} {config : Config} (hname : request.fileName? = none)
      (hpath : request.config? = some path)
      (hload : (Config.load freeAccess path).resultOn volume = .ok config) :
      NameOrigin request volume config.reportFileName
  | default (hname : request.fileName? = none) (hpath : request.config? = none) :
      NameOrigin request volume ({} : Config).reportFileName

section Names

variable {request : Request} {volume : Volume}

theorem nameOrigin_of_settings {config : Config}
    (hsettings : (settings freeAccess request).resultOn volume = .ok config) :
    NameOrigin request volume config.reportFileName := by
  cases hpath : request.config? with
  | none =>
      simp only [settings, hpath, pure_bind] at hsettings
      cases hsettings
      cases hname : request.fileName? with
      | none => exact .default hname hpath
      | some name => exact .request hname
  | some path =>
      have hlook : Action.IsLook (Config.load freeAccess path) := Config.isLook_load _ path
      simp only [settings, hpath] at hsettings
      obtain ⟨loaded, hload, hpure⟩ :=
        (hlook.resultOn_bind_eq_ok fun _ => .pure _).mp hsettings
      cases hpure
      cases hname : request.fileName? with
      | none => exact .config hname hpath hload
      | some name => exact .request hname

/-- A request that has been checked has a plain name, if any. -/
theorem isPlainFileName_of_check {name : String} (hname : request.fileName? = some name)
    (hcheck : (check freeAccess request).resultOn volume = .ok ()) : isPlainFileName name := by
  by_contra hplain
  rw [Bool.not_eq_true] at hplain
  obtain ⟨_, -, hrest⟩ := Action.runOn_bind_eq_ok.mp hcheck
  cases hpath : request.config? with
  | none => simp [hname, hpath, hplain] at hrest
  | some path =>
      simp only [hname, hpath] at hrest
      obtain ⟨_, -, hrest⟩ := Action.runOn_bind_eq_ok.mp hrest
      simp [hplain] at hrest

end Names

/-- A checked request that succeeds and names an output directory makes or changes one file: that
of a plain name in this directory. A name that comes from a configuration has to be
unseparated. -/
theorem report_inside_directory {request : Request} {directory : Path} {printed : String}
    {checked volume : Volume} (hnames : volume.HasEntryNames)
    (hcheck : (check freeAccess request).resultOn checked = .ok ())
    (hdirectory : request.outputDirectory? = some directory)
    (hconfig : ∀ path config, request.fileName? = none → request.config? = some path →
      (Config.load freeAccess path).resultOn volume = .ok config →
        IsUnseparated config.reportFileName)
    (hok : (perform request volume).1 = .ok printed) :
    ∃ name text, NameOrigin request volume name ∧ IsUnseparated name ∧ Path.isEntryName name ∧
      ∀ location, (perform request volume).2.contentAt? location =
        if location = directory.place ++ [name] then some (.text text)
        else volume.contentAt? location := by
  have heffect := (perform_effect request hnames).1
  generalize perform request volume = outcome at heffect hok
  obtain ⟨result, after⟩ := outcome
  cases heffect with
  | failed hsame => contradiction
  | printed hnone hprepared =>
      rw [hnone] at hdirectory
      contradiction
  | @written found config survey previous? after hfound hprepared hname hprevious hwritten =>
      cases hfound.symm.trans hdirectory
      have horigin := nameOrigin_of_settings (settings_resultOn hprepared)
      have hunseparated : IsUnseparated config.reportFileName := by
        generalize config.reportFileName = name at horigin
        cases horigin with
        | request hname =>
            exact isUnseparated_of_isPlainFileName (isPlainFileName_of_check hname hcheck)
        | config hname hpath hload => exact hconfig _ _ hname hpath hload
        | default _ _ => exact isUnseparated_of_isPlainFileName (by decide)
      -- The last piece of the path is the whole name, and it was allowed as an entry.
      have hslash : '/' ∉ config.reportFileName.toList :=
        fun hmem => (hunseparated _ hmem).1 rfl
      obtain ⟨around, hpieces, -⟩ := Path.pieces_join directory hslash
      obtain ⟨last, hlast, hentry⟩ := hname
      rw [hpieces, List.getLast?_concat, Option.some_inj] at hlast
      rw [← hlast] at hentry
      rw [Path.place_join directory hslash hentry] at hwritten
      exact ⟨_, _, horigin, hunseparated, hentry, hwritten⟩

namespace Named

/-- Declarations of no class, and a configuration that names the report. -/
def volume (setting : String) : Volume :=
  .directory [("m.yaml", .file (.text "classes:\n")), ("c.yaml", .file (.text setting))]

def request : Request where
  input := ⟨"m.yaml"⟩
  outputDirectory? := some ⟨"out"⟩
  config? := some ⟨"c.yaml"⟩

def plain : Volume :=
  volume "report_file_name: summary\n"

def nested : Volume :=
  volume "report_file_name: ../escaped\n"

theorem hasEntryNames_plain : plain.HasEntryNames := by
  refine hasEntryNames_directory fun entry hentry => ?_
  simp only [List.mem_cons, List.not_mem_nil, or_false] at hentry
  obtain rfl | rfl := hentry
  · exact ⟨by decide, hasEntryNames_file _⟩
  · exact ⟨by decide, hasEntryNames_file _⟩

theorem load_plain : ((Config.load freeAccess ⟨"c.yaml"⟩).resultOn plain).toOption =
    some { reportFileName := "summary" } := by
  decide +kernel

end Named

open Named in
/-- With a plain name in the configuration, the report is in the directory. -/
theorem report_inside_directory_of_config :
    plain.HasEntryNames ∧ (check freeAccess request).resultOn plain = .ok () ∧
    (perform request plain).1 = .ok "" ∧
    ∃ name text, NameOrigin request plain name ∧ IsUnseparated name ∧ Path.isEntryName name ∧
      ∀ location, (perform request plain).2.contentAt? location =
        if location = ["out"] ++ [name] then some (.text text) else plain.contentAt? location := by
  have hcheck : (check freeAccess request).resultOn plain = .ok () := by decide +kernel
  have hok : (perform request plain).1 = .ok "" := by decide +kernel
  refine ⟨hasEntryNames_plain, hcheck, hok,
    report_inside_directory hasEntryNames_plain hcheck rfl ?_ hok⟩
  intro path config _ hpath hload
  cases hpath
  have hloaded := load_plain
  rw [hload] at hloaded
  cases hloaded
  exact isUnseparated_of_isPlainFileName (by decide)

open Named in
/-- A name in a configuration can lead out of the directory. -/
theorem report_outside_directory :
    (check freeAccess request).resultOn nested = .ok () ∧ (perform request nested).1 = .ok "" ∧
    nested.contentAt? ["escaped"] = none ∧
    (perform request nested).2.contentAt? ["escaped"] = some (.text "") := by
  decide +kernel

end RouteSurvey.CommandLine
