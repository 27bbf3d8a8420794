import RouteSurvey.CommandLine.Run
import RouteSurvey.Proofs.Report.Writing

/-! # The effect of a request

Everything up to the delivery of a report only looks at the files. So a request has one of
three effects: it fails and every file is as it was, it prints a report and changes nothing,
or it puts its report behind what the report file held before.
-/

namespace RouteSurvey

open FileTree Volume

/-! ## What only looks at the files -/

section Looks

variable (refuses : FileCall → Bool)

theorem access_readText?_keeps (path : Path) (volume : Volume) :
    (((access refuses).readText? path).run volume).2 = volume := by
  rw [access_readText?_run]

theorem Config.isLook_load (path : Path) : Action.IsLook (Config.load (access refuses) path) := by
  refine (Action.IsLook.demand _ (access_readText?_keeps refuses path)).bind fun text => ?_
  dsimp only
  split
  · exact .pure _
  · exact .throw _

theorem Declaration.Tree.isLook_load (path : Path) :
    Action.IsLook (Declaration.Tree.load (access refuses) path) := by
  refine (Action.IsLook.demand _ (access_readText?_keeps refuses path)).bind fun text => ?_
  split
  · exact .pure _
  · exact .throw _

namespace Source

theorem Scan.isLook_load (root : Path) : Action.IsLook (Scan.load (access refuses) root) := by
  refine (Action.IsLook.ensure _ fun _ => rfl).bind fun _ => ?_
  refine (Action.IsLook.demand _ fun _ => rfl).bind fun tree => ?_
  exact (Action.IsLook.tell _).bind fun _ => .pure _

theorem SourceFile.isLook_load (path : Path) :
    Action.IsLook (SourceFile.load (access refuses) path) := by
  refine (Action.IsLook.demand _ (access_readText?_keeps refuses path)).bind fun text => ?_
  split
  · exact .pure _
  · exact .throw _

theorem isLook_loadAll (paths : List Path) : Action.IsLook (loadAll (access refuses) paths) := by
  induction paths with
  | nil => exact .pure _
  | cons path rest ih =>
      refine Action.IsLook.bind (Action.IsLook.tryCatch ?_ fun error => ?_) fun found => ?_
      · exact (SourceFile.isLook_load refuses path).map some
      · exact (Action.IsLook.tell _).bind fun _ => .pure _
      · exact ih.bind fun others => .pure _

theorem isLook_loadProject (root : Path) :
    Action.IsLook (loadProject (access refuses) root) := by
  refine (Action.IsLook.tell _).bind fun _ => (Scan.isLook_load refuses root).bind fun scan => ?_
  refine (Action.IsLook.tell _).bind fun _ => Action.IsLook.throwIf _ fun _ => ?_
  refine (Action.IsLook.tell _).bind fun _ => (isLook_loadAll refuses _).bind fun sources => ?_
  refine (Action.IsLook.tell _).bind fun _ => Action.IsLook.throwIf _ fun _ => ?_
  exact (Action.IsLook.tell _).bind fun _ => .pure _

end Source

theorem Input.isLook_detect (path : Path) : Action.IsLook (Input.detect (access refuses) path) := by
  refine (Action.IsLook.call fun _ => rfl).bind fun isDirectory => ?_
  split
  · exact .pure _
  · refine (Action.IsLook.ensure _ fun _ => rfl).bind fun _ => ?_
    split
    · exact .pure _
    · exact .throw _

theorem Input.isLook_load (path : Path) : Action.IsLook (Input.load (access refuses) path) := by
  refine (Input.isLook_detect refuses path).bind fun input => ?_
  cases input with
  | project root => exact Source.isLook_loadProject refuses root
  | document path =>
      exact (Action.IsLook.tell _).bind fun _ => Declaration.Tree.isLook_load refuses path

theorem Survey.isLook_perform (tree : Declaration.Tree) (config : Config) :
    Action.IsLook (Survey.perform tree config : Action (StateM Volume) Survey) := by
  rw [Survey.perform]
  refine (Action.IsLook.tell _).bind fun _ => ?_
  split
  · exact .pure _
  · exact .throw _

namespace CommandLine

theorem isLook_settings (request : Request) :
    Action.IsLook (settings (access refuses) request) := by
  rw [settings]
  split
  · exact (Config.isLook_load refuses _).bind fun config => .pure _
  · exact (Action.IsLook.pure _).bind fun config => .pure _

end CommandLine

end Looks

/-! ## Before the delivery -/

namespace CommandLine

section Preparation

variable {m : Type → Type} [Monad m] (access : FileAccess m) (request : Request)

/-- The survey of the input of a request, with given settings. -/
def surveyWith (config : Config) : Action m Survey := do
  let tree ← Input.load access request.input
  Action.tell [.loaded tree.classes.length tree.methodCount]
  Survey.perform tree config

/-- A request up to the delivery of its report. -/
def prepare : Action m (Config × Survey) := do
  let config ← settings access request
  let survey ← surveyWith access request config
  return (config, survey)

theorem run_eq_prepare_bind [LawfulMonad m] : run access request = (do
    let (config, survey) ← prepare access request
    let printed ← deliver access request config survey
    Action.tell (closing survey)
    return printed) := by
  simp only [run, prepare, surveyWith, bind_assoc, pure_bind]

end Preparation

theorem isLook_surveyWith (refuses : FileCall → Bool) (request : Request) (config : Config) :
    Action.IsLook (surveyWith (access refuses) request config) := by
  refine (Input.isLook_load refuses request.input).bind fun tree => ?_
  exact (Action.IsLook.tell _).bind fun _ => Survey.isLook_perform tree config

theorem isLook_prepare (refuses : FileCall → Bool) (request : Request) :
    Action.IsLook (prepare (access refuses) request) :=
  (isLook_settings refuses request).bind fun config =>
    (isLook_surveyWith refuses request config).bind fun _ => .pure _

/-! ## Carrying out a request -/

/-- Working with files where no call is refused. -/
def freeAccess : FileAccess (StateM Volume) :=
  access fun _ => false

/-- Carries out a request: what it prints or the error that ends it, and the volume after. -/
def perform (request : Request) (volume : Volume) : Except Error String × Volume :=
  let ((result, _), after) := (Action.outcome (run freeAccess request)).run volume
  (result, after)

/-- The settings and the survey of a request. -/
def preparedOn (request : Request) (volume : Volume) : Except Error (Config × Survey) :=
  (prepare freeAccess request).resultOn volume

/-- The settings of a request are those it is prepared with. -/
theorem settings_resultOn {request : Request} {volume : Volume} {config : Config}
    {survey : Survey} (hprepared : preparedOn request volume = .ok (config, survey)) :
    (settings freeAccess request).resultOn volume = .ok config := by
  have hlook : Action.IsLook (settings freeAccess request) := isLook_settings _ request
  have hsurvey (config : Config) : Action.IsLook (surveyWith freeAccess request config) :=
    isLook_surveyWith _ request config
  obtain ⟨found, hfound, hrest⟩ := (hlook.resultOn_bind_eq_ok fun config =>
    (hsurvey config).bind fun survey => .pure _).mp hprepared
  obtain ⟨_, -, hpure⟩ := ((hsurvey found).resultOn_bind_eq_ok fun survey => .pure _).mp hrest
  cases hpure
  exact hfound

/-- What a request comes to, by its result and the volume afterwards. -/
inductive Effect (request : Request) (before : Volume) : Except Error String → Volume → Prop where
  /-- No file has changed -/
  | failed {error : Error} {after : Volume} (hsame : SameFiles before after) :
      Effect request before (.error error) after
  /-- The report is printed -/
  | printed {config : Config} {survey : Survey} (hdirectory : request.outputDirectory? = none)
      (hprepared : preparedOn request before = .ok (config, survey)) :
      Effect request before (.ok survey.report) before
  /-- The report stands in its file, behind the earlier one -/
  | written {directory : Path} {config : Config} {survey : Survey} {previous? : Option String}
      {after : Volume} (hdirectory : request.outputDirectory? = some directory)
      (hprepared : preparedOn request before = .ok (config, survey))
      (hname : ∃ name, (directory.join ⟨config.reportFileName⟩).pieces.getLast? = some name ∧
        Path.isEntryName name)
      (hprevious : before.contentAt? (directory.join ⟨config.reportFileName⟩).place =
        previous?.map .text)
      (hwritten : ∀ location, after.contentAt? location =
        if location = (directory.join ⟨config.reportFileName⟩).place then
          some (.text (Report.merge previous? survey.report))
        else before.contentAt? location) :
      Effect request before (.ok "") after

/-- A report that is to be written to a file is put behind the earlier one, or the request
fails and changes no file. -/
theorem deliver_effect {request : Request} {directory : Path} {config : Config} {survey : Survey}
    {volume : Volume} (hnames : volume.HasEntryNames)
    (hdirectory : request.outputDirectory? = some directory)
    (hprepared : preparedOn request volume = .ok (config, survey)) (told : List Notice) :
    ∃ result toldThen after, (deliver freeAccess request config survey).runOn told volume =
      ((result, toldThen), after) ∧ Effect request volume result after ∧ after.HasEntryNames := by
  obtain ⟨result, after, hwrite, houtcome, hafter⟩ := Report.write_runOn (fun _ => false)
    directory config.reportFileName survey.report told hnames
  simp only [deliver, hdirectory, freeAccess, Action.runOn_bind, hwrite]
  cases houtcome with
  | kept error hsame => exact ⟨_, _, _, rfl, .failed hsame, hafter⟩
  | lost hrefused => contradiction
  | written hname hprevious hwritten =>
      exact ⟨_, _, _, rfl, .written hdirectory hprepared hname hprevious hwritten, hafter⟩

/-- The run of a request is its preparation, and then the delivery. -/
theorem perform_eq (request : Request) (volume : Volume) : ∃ told, perform request volume =
    match preparedOn request volume with
    | .error error => (.error error, volume)
    | .ok (config, survey) =>
      let ((result, _), after) := (deliver freeAccess request config survey).runOn told volume
      (result, after) := by
  have hperform : perform request volume =
      (((run freeAccess request).runOn [] volume).1.1,
        ((run freeAccess request).runOn [] volume).2) := rfl
  -- The preparation leaves the volume as it is, so the delivery starts from the same one.
  obtain ⟨told, hprepare⟩ := (isLook_prepare (fun _ => false) request).runOn_eq [] volume
  change (prepare freeAccess request).runOn [] volume =
    ((preparedOn request volume, told), volume) at hprepare
  refine ⟨told, ?_⟩
  rw [hperform, run_eq_prepare_bind, Action.runOn_bind, hprepare]
  cases preparedOn request volume with
  | error error => rfl
  | ok prepared =>
      obtain ⟨config, survey⟩ := prepared
      dsimp only
      rw [Action.runOn_bind]
      rcases (deliver freeAccess request config survey).runOn told volume with
        ⟨⟨result, toldThen⟩, after⟩
      cases result <;> rfl

theorem perform_eq_print {request : Request} {volume : Volume} {config : Config}
    {survey : Survey} (hdirectory : request.outputDirectory? = none)
    (hprepared : preparedOn request volume = .ok (config, survey)) :
    perform request volume = (.ok survey.report, volume) := by
  obtain ⟨told, hperform⟩ := perform_eq request volume
  rw [hperform, hprepared]
  simp only [deliver, hdirectory, Action.runOn_pure]

/-- A request has one of the three effects. -/
theorem perform_effect (request : Request) {volume : Volume} (hnames : volume.HasEntryNames) :
    Effect request volume (perform request volume).1 (perform request volume).2 ∧
      (perform request volume).2.HasEntryNames := by
  cases hprepared : preparedOn request volume with
  | error error =>
      obtain ⟨_, hperform⟩ := perform_eq request volume
      rw [hperform, hprepared]
      exact ⟨.failed fun _ => rfl, hnames⟩
  | ok prepared =>
      obtain ⟨config, survey⟩ := prepared
      cases hdirectory : request.outputDirectory? with
      | none =>
          rw [perform_eq_print hdirectory hprepared]
          exact ⟨.printed hdirectory hprepared, hnames⟩
      | some directory =>
          obtain ⟨told, hperform⟩ := perform_eq request volume
          obtain ⟨result, toldThen, after, hdeliver, heffect, hafter⟩ :=
            deliver_effect hnames hdirectory hprepared told
          rw [hperform, hprepared]
          simp only [hdeliver]
          exact ⟨heffect, hafter⟩

end CommandLine

end RouteSurvey
