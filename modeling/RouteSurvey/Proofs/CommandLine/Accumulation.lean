import RouteSurvey.Proofs.CommandLine.Effect

/-! # Reports accumulate

Requests are carried out one after the other on the same files. What a file holds at the end
is what it held at first, followed by the reports of those requests that succeeded and whose
report file it is. Every other request leaves all files as they are.
-/

namespace RouteSurvey

open FileTree Volume

/-- What a file holds when a text is put behind what it held before. -/
def Content.followedBy (content? : Option Content) (text : String) : Option Content :=
  match content? with
  | none => some (.text text)
  | some (.text previous) => some (.text (previous ++ text))
  | some (.bytes previous) => some (.bytes (previous ++ text.toUTF8.toList))

namespace CommandLine

/-- The volume after some requests, carried out in order. -/
def performAll : List Request → Volume → Volume
  | [], volume => volume
  | request :: rest, volume => performAll rest (perform request volume).2

/-- The file that a request names for its report: the output directory with the report file
name of its settings. -/
def reportFile? (request : Request) (volume : Volume) : Option Location := do
  let directory ← request.outputDirectory?
  let config ← ((settings freeAccess request).resultOn volume).toOption
  return (directory.join ⟨config.reportFileName⟩).place

/-- What the same request prints if it names no output directory. -/
def printed? (request : Request) (volume : Volume) : Option String :=
  (perform { request with outputDirectory? := none } volume).1.toOption

/-- The text that a request adds to a file: nothing, unless it succeeds and the file is that
of its report. -/
def addition? (file : Location) (request : Request) (volume : Volume) : Option String :=
  match (perform request volume).1 with
  | .error _ => none
  | .ok _ => if reportFile? request volume = some file then printed? request volume else none

/-- The texts that some requests add to a file, in order. -/
def additions (file : Location) : List Request → Volume → List String
  | [], _ => []
  | request :: rest, volume =>
    (addition? file request volume).toList ++ additions file rest (perform request volume).2

/-! ## One request -/

section Step

variable {request : Request} {volume : Volume}

theorem performAll_hasEntryNames (requests : List Request) (hnames : volume.HasEntryNames) :
    (performAll requests volume).HasEntryNames := by
  induction requests generalizing volume with
  | nil => exact hnames
  | cons request rest ih => exact ih (perform_effect request hnames).2

theorem reportFile?_of_prepared {directory : Path} {config : Config} {survey : Survey}
    (hdirectory : request.outputDirectory? = some directory)
    (hprepared : preparedOn request volume = .ok (config, survey)) :
    reportFile? request volume = some (directory.join ⟨config.reportFileName⟩).place := by
  rw [reportFile?, hdirectory, settings_resultOn hprepared]
  rfl

theorem printed?_of_prepared {config : Config} {survey : Survey}
    (hprepared : preparedOn request volume = .ok (config, survey)) :
    printed? request volume = some survey.report := by
  have hsame : preparedOn { request with outputDirectory? := none } volume =
      .ok (config, survey) := hprepared
  rw [printed?, perform_eq_print rfl hsame]
  rfl

/-- A request that fails, or that names no output directory, changes no file. -/
theorem sameFiles_of_not_written (hnames : volume.HasEntryNames)
    (hnone : (∃ error, (perform request volume).1 = .error error) ∨
      request.outputDirectory? = none) :
    SameFiles volume (perform request volume).2 := by
  have heffect := (perform_effect request hnames).1
  generalize perform request volume = outcome at heffect hnone
  obtain ⟨result, after⟩ := outcome
  cases heffect with
  | failed hsame => exact hsame
  | printed hdirectory hprepared => exact fun _ => rfl
  | written hdirectory hprepared hname hprevious hwritten =>
      obtain ⟨error, herror⟩ | hdirectoryNone := hnone
      · contradiction
      · rw [hdirectory] at hdirectoryNone
        contradiction

/-- A request that succeeds and names an output directory puts behind what its report file
held what it would print otherwise, and changes no other file. -/
theorem written_of_ok {directory : Path} {printed : String} (hnames : volume.HasEntryNames)
    (hdirectory : request.outputDirectory? = some directory)
    (hok : (perform request volume).1 = .ok printed) :
    ∃ file text, reportFile? request volume = some file ∧ printed? request volume = some text ∧
      ∀ location, (perform request volume).2.contentAt? location =
        if location = file then Content.followedBy (volume.contentAt? file) text
        else volume.contentAt? location := by
  have heffect := (perform_effect request hnames).1
  generalize perform request volume = outcome at heffect hok
  obtain ⟨result, after⟩ := outcome
  cases heffect with
  | failed hsame => contradiction
  | printed hnone hprepared =>
      rw [hnone] at hdirectory
      contradiction
  | @written directory config survey previous? after hdirectory hprepared hname hprevious
      hwritten =>
      refine ⟨_, _, reportFile?_of_prepared hdirectory hprepared,
        printed?_of_prepared hprepared, fun location => ?_⟩
      rw [hwritten, hprevious]
      cases previous? <;> rfl

/-- A request changes a file just by what it adds to it. -/
theorem perform_contentAt? (file : Location) (hnames : volume.HasEntryNames) :
    (perform request volume).2.contentAt? file =
      (addition? file request volume).elim (volume.contentAt? file)
        (Content.followedBy (volume.contentAt? file)) := by
  cases hresult : (perform request volume).1 with
  | error error =>
      rw [addition?, hresult]
      exact sameFiles_of_not_written hnames (.inl ⟨error, hresult⟩) file
  | ok printed =>
      cases hdirectory : request.outputDirectory? with
      | none =>
          have hnone : reportFile? request volume = none := by rw [reportFile?, hdirectory]; rfl
          simp only [addition?, hresult, hnone]
          exact sameFiles_of_not_written hnames (.inr hdirectory) file
      | some directory =>
          obtain ⟨target, text, htarget, htext, hwritten⟩ := written_of_ok hnames hdirectory hresult
          simp only [addition?, hresult, htarget, htext, hwritten, Option.some_inj]
          by_cases hfile : file = target
          · simp [hfile]
          · simp [hfile, Ne.symm hfile]

end Step

/-! ## Many requests -/

theorem contentAt?_performAll (requests : List Request) {volume : Volume}
    (hnames : volume.HasEntryNames) (file : Location) :
    (performAll requests volume).contentAt? file =
      (additions file requests volume).foldl Content.followedBy (volume.contentAt? file) := by
  induction requests generalizing volume with
  | nil => rfl
  | cons request rest ih =>
      obtain ⟨-, hafter⟩ := perform_effect request hnames
      rw [performAll, ih hafter, perform_contentAt? file hnames, additions, List.foldl_append]
      cases addition? file request volume <;> rfl

/-- A file to which texts are added is absent only if it was and there are none. -/
theorem foldl_followedBy_eq_none {content? : Option Content} {texts : List String} :
    texts.foldl Content.followedBy content? = none ↔ content? = none ∧ texts = [] := by
  induction texts generalizing content? with
  | nil => simp
  | cons text rest ih =>
      rw [List.foldl_cons, ih]
      cases content? with
      | none => simp [Content.followedBy]
      | some content => cases content <;> simp [Content.followedBy]

/-- After any requests a file holds what it held at first and then what they added to it, in
their order; it is absent only if it was and nothing was added. Among these requests, one that
fails or names no output directory changes no file, and one that succeeds puts just what it
would print without an output directory behind what its report file holds then. -/
theorem performAll_accumulates {volume : Volume} (hnames : volume.HasEntryNames)
    (requests : List Request) :
    (∀ file, (performAll requests volume).contentAt? file =
      (additions file requests volume).foldl Content.followedBy (volume.contentAt? file)) ∧
    (∀ file, (performAll requests volume).contentAt? file = none ↔
      volume.contentAt? file = none ∧ additions file requests volume = []) ∧
    ∀ earlier request later, requests = earlier ++ request :: later →
      let before := performAll earlier volume
      let after := (perform request before).2
      ((∃ error, (perform request before).1 = .error error) ∨ request.outputDirectory? = none →
        SameFiles before after) ∧
      (∀ directory printed, request.outputDirectory? = some directory →
        (perform request before).1 = .ok printed →
          ∃ file text, reportFile? request before = some file ∧
            printed? request before = some text ∧
              ∀ location, after.contentAt? location =
                if location = file then Content.followedBy (before.contentAt? file) text
                else before.contentAt? location) := by
  refine ⟨contentAt?_performAll requests hnames, fun file => ?_, ?_⟩
  · rw [contentAt?_performAll requests hnames file, foldl_followedBy_eq_none]
  · intro earlier request later _ before after
    have hbefore : before.HasEntryNames := performAll_hasEntryNames earlier hnames
    exact ⟨sameFiles_of_not_written hbefore, fun _ _ => written_of_ok hbefore⟩

namespace Repeated

def document : String :=
  "classes:\n- name: C\n  methods:\n  - name: m\n    annotations:\n" ++
    "    - kind: get_mapping\n      values:\n        value: /m\n"

def volume : Volume :=
  .directory [("m.yaml", .file (.text document))]

def request : Request where
  input := ⟨"m.yaml"⟩
  outputDirectory? := some ⟨"out"⟩

def report : String :=
  "C:\n\t- [GET] [/m]\n"

theorem hasEntryNames_volume : volume.HasEntryNames := by
  refine hasEntryNames_directory fun entry hentry => ?_
  rw [List.mem_singleton.mp hentry]
  exact ⟨by decide, hasEntryNames_file _⟩

set_option maxRecDepth 10000 in
theorem additions_twice :
    additions ["out", "routes"] [request, request] volume = [report, report] := by
  decide +kernel

end Repeated

open Repeated in
/-- A request that is carried out twice leaves its report twice. -/
theorem performAll_accumulates_twice : volume.HasEntryNames ∧
    (performAll [request, request] volume).contentAt? ["out", "routes"] =
      some (.text (report ++ report)) := by
  obtain ⟨hfiles, -, -⟩ := performAll_accumulates hasEntryNames_volume [request, request]
  refine ⟨hasEntryNames_volume, ?_⟩
  rw [hfiles, additions_twice]
  rfl

end CommandLine

end RouteSurvey
