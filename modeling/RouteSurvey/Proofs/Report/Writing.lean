import RouteSurvey.Proofs.Action
import RouteSurvey.Proofs.Files.Volume
import RouteSurvey.Report.Writing

/-! # What writing a report does

Writing a report ends in one of three ways. The report stands behind the earlier one; or the
writing fails and every file is as it was; or the last call is refused when the earlier
report has been removed already, and then that report is lost. Without refusals the third
way does not occur.
-/

namespace RouteSurvey.Report

open FileTree Volume

/-- What writing a report to a path comes to, by its result and the volume afterwards. -/
inductive Outcome (refuses : FileCall → Bool) (path : Path) (fresh : String) (before : Volume) :
    Except Error Path → Volume → Prop where
  /-- No file has changed -/
  | kept (error : Error) {after : Volume} (hsame : SameFiles before after) :
      Outcome refuses path fresh before (.error error) after
  /-- The earlier report has been removed, but the new one is refused -/
  | lost {error : Error} {previous : String} {after : Volume} (hrefused : refuses .write)
      (hprevious : before.contentAt? path.place = some (.text previous))
      (hlost : ∀ location, after.contentAt? location =
        if location = path.place then none else before.contentAt? location) :
      Outcome refuses path fresh before (.error error) after
  /-- The report stands behind the earlier one, if there is one -/
  | written {previous? : Option String} {after : Volume}
      (hname : ∃ name, path.pieces.getLast? = some name ∧ Path.isEntryName name)
      (hprevious : before.contentAt? path.place = previous?.map .text)
      (hwritten : ∀ location, after.contentAt? location =
        if location = path.place then some (.text (merge previous? fresh))
        else before.contentAt? location) :
      Outcome refuses path fresh before (.ok path) after

/-- What happened before a report is written may have made directories. -/
theorem Outcome.of_sameFiles {refuses : FileCall → Bool} {path : Path} {fresh : String}
    {first before after : Volume} {result : Except Error Path} (hsame : SameFiles first before)
    (houtcome : Outcome refuses path fresh before result after) :
    Outcome refuses path fresh first result after := by
  cases houtcome with
  | kept error hkept => exact .kept error (hsame.trans hkept)
  | lost hrefused hprevious hlost =>
      rw [hsame] at hprevious
      exact .lost hrefused hprevious fun location => by rw [hlost, hsame]
  | written hname hprevious hwritten =>
      rw [hsame] at hprevious
      exact .written hname hprevious fun location => by rw [hwritten, hsame]

section Calls

variable (refuses : FileCall → Bool) (path : Path) (told : List Notice) (volume : Volume)

/-- An earlier report is read and removed; if one of these fails, everything stays. -/
theorem takePrevious_runOn :
    (∃ error, (takePrevious (access refuses) path).runOn told volume =
      ((.error error, told), volume)) ∨
    (volume.find? path = none ∧
      (takePrevious (access refuses) path).runOn told volume = ((.ok none, told), volume)) ∨
    ∃ previous removed, volume.readText? path = some previous ∧
      volume.remove? path = some removed ∧
      (takePrevious (access refuses) path).runOn told volume =
        ((.ok (some previous), told), removed) := by
  simp only [takePrevious, Action.runOn_bind, Action.runOn_call, access_isPresent_run]
  cases hfound : volume.find? path with
  | none => exact .inr (.inl ⟨rfl, rfl⟩)
  | some found =>
      simp only [Option.isSome_some, if_true, Action.runOn_bind, Action.runOn_demand,
        access_readText?_run]
      cases hread : if refuses .readText then none else volume.readText? path with
      | none => exact .inl ⟨_, rfl⟩
      | some previous =>
          simp only [Option.elim_some, Action.runOn_ensure, access_remove_run]
          cases hremove : if refuses .remove then none else volume.remove? path with
          | none => exact .inl ⟨_, rfl⟩
          | some removed =>
              refine .inr (.inr ⟨previous, removed, ?_, ?_, rfl⟩)
              · split at hread
                · contradiction
                · exact hread
              · split at hremove
                · contradiction
                · exact hremove

end Calls

section Outcomes

variable {refuses : FileCall → Bool} {path : Path} {fresh : String} {volume after : Volume}

theorem outcome_of_absent (habsent : volume.find? path = none)
    (hwrite : volume.write? path fresh = some after) :
    Outcome refuses path fresh volume (.ok path) after := by
  obtain ⟨around, name, hends, hname⟩ := exists_endsIn_of_write? hwrite
  have hprevious : volume.contentAt? path.place = (none : Option String).map .text := by
    rw [contentAt?_eq_bind, nodeAt?_place_of_absent habsent hwrite]
    rfl
  exact .written ⟨name, hends.last, hname⟩ hprevious (contentAt?_of_update (nodeAt?_write? hwrite))

theorem outcome_of_removed {previous : String} {removed : Volume}
    (hread : volume.readText? path = some previous) (hremove : volume.remove? path = some removed)
    (hwrite : removed.write? path (merge (some previous) fresh) = some after) :
    Outcome refuses path fresh volume (.ok path) after := by
  obtain ⟨around, name, hends, hname⟩ := exists_endsIn_of_write? hwrite
  have hprevious : volume.contentAt? path.place = (some previous).map .text :=
    readText?_eq_some hread
  refine .written ⟨name, hends.last, hname⟩ hprevious fun location => ?_
  rw [contentAt?_of_update (nodeAt?_write? hwrite), contentAt?_of_update (nodeAt?_remove? hremove)]
  split <;> rfl

theorem outcome_of_refused {previous : String} {removed : Volume} (error : Error)
    (hread : volume.readText? path = some previous) (hremove : volume.remove? path = some removed)
    (hrefused : refuses .write) : Outcome refuses path fresh volume (.error error) removed := by
  exact .lost hrefused (readText?_eq_some hread) (contentAt?_of_update (nodeAt?_remove? hremove))

end Outcomes

theorem putBehind_runOn (refuses : FileCall → Bool) (path : Path) (fresh : String)
    (told : List Notice) {volume : Volume} (hnames : volume.HasEntryNames) :
    ∃ result after, Action.runOn (do
        let previous ← takePrevious (access refuses) path
        Action.ensure (.reportAccess path.text)
          ((access refuses).write path (merge previous fresh))
        return path) told volume = ((result, told), after) ∧
      Outcome refuses path fresh volume result after ∧ after.HasEntryNames := by
  simp only [Action.runOn_bind, Action.runOn_ensure, access_write_run]
  obtain ⟨error, hrun⟩ | ⟨habsent, hrun⟩ | ⟨previous, removed, hread, hremove, hrun⟩ :=
    takePrevious_runOn refuses path told volume
  · rw [hrun]
    exact ⟨_, _, rfl, .kept error fun _ => rfl, hnames⟩
  · rw [hrun]
    dsimp only
    cases hwrite : if refuses .write then none else volume.write? path (merge none fresh) with
    | none => exact ⟨_, _, rfl, .kept _ fun _ => rfl, hnames⟩
    | some after =>
        have hwritten := (Option.ite_none_left_eq_some.mp hwrite).2
        exact ⟨_, _, rfl, outcome_of_absent habsent hwritten,
          hnames.of_write? hwritten⟩
  · rw [hrun]
    dsimp only
    have hremovedNames := hnames.of_remove? hremove
    cases hwrite : if refuses .write then none
      else removed.write? path (merge (some previous) fresh) with
    | none =>
        -- The file that was removed could be made again, so nothing but a refusal is left.
        have hrefused : refuses .write := by
          by_contra hallowed
          obtain ⟨after, hwritten⟩ :=
            exists_write?_of_remove? hnames hremove (merge (some previous) fresh)
          rw [if_neg hallowed, hwritten] at hwrite
          contradiction
        exact ⟨_, _, rfl, outcome_of_refused _ hread hremove hrefused, hremovedNames⟩
    | some after =>
        have hwritten := (Option.ite_none_left_eq_some.mp hwrite).2
        exact ⟨_, _, rfl, outcome_of_removed hread hremove hwritten,
          hremovedNames.of_write? hwritten⟩

/-- Writing a report has one of the three outcomes, whatever calls are refused. -/
theorem write_runOn (refuses : FileCall → Bool) (directory : Path) (fileName fresh : String)
    (told : List Notice) {volume : Volume} (hnames : volume.HasEntryNames) :
    ∃ result after, (write (access refuses) directory fileName fresh).runOn told volume =
      ((result, told), after) ∧
        Outcome refuses (directory.join ⟨fileName⟩) fresh volume result after ∧
          after.HasEntryNames := by
  rw [write, Action.runOn_bind, Action.runOn_ensure, access_makeDirectories_run]
  generalize hmake : (if refuses .makeDirectories then (false, volume)
    else volume.makeDirectories directory) = made
  have hkeeps : Keeps volume made.2 := by
    rw [← hmake]
    split
    · exact .refl volume
    · exact makeDirectories_keeps volume directory
  have hmadeNames := hkeeps.hasEntryNames hnames
  obtain ⟨isMade, ready⟩ := made
  cases isMade with
  | false => exact ⟨_, _, rfl, .kept _ hkeeps.sameFiles, hmadeNames⟩
  | true =>
      obtain ⟨result, after, hrun, houtcome, hafter⟩ :=
        putBehind_runOn refuses (directory.join ⟨fileName⟩) fresh told hmadeNames
      exact ⟨result, after, hrun, houtcome.of_sameFiles hkeeps.sameFiles, hafter⟩

/-! ## Errors -/

/-- An error costs no file and no earlier report, whatever calls are refused before the one
that makes the file anew. -/
theorem sameFiles_of_write_error {refuses : FileCall → Bool} {directory : Path}
    {fileName fresh : String} {told toldThen : List Notice} {volume after : Volume} {error : Error}
    (hnames : volume.HasEntryNames) (hallowed : refuses .write = false)
    (hrun : (write (access refuses) directory fileName fresh).runOn told volume =
      ((.error error, toldThen), after)) : SameFiles volume after := by
  obtain ⟨result, afterThen, hwrite, houtcome, -⟩ :=
    write_runOn refuses directory fileName fresh told hnames
  rw [hrun] at hwrite
  cases hwrite
  cases houtcome with
  | kept error hsame => exact hsame
  | lost hrefused _ _ =>
      rw [hallowed] at hrefused
      contradiction

namespace Refused

def volume : Volume :=
  .directory [("out", .directory [("routes", .file (.text "C:\n"))])]

/-- The run that puts a second report behind the one in the volume. -/
def rewrite (refused : FileCall) : (Except Error Path × List Notice) × Volume :=
  (write (access fun call => call = refused) ⟨"out"⟩ "routes" "D:\n").runOn [] volume

theorem hasEntryNames_volume : volume.HasEntryNames := by
  refine hasEntryNames_directory fun entry hentry => ?_
  rw [List.mem_singleton.mp hentry]
  refine ⟨by decide, hasEntryNames_directory fun entry hentry => ?_⟩
  rw [List.mem_singleton.mp hentry]
  exact ⟨by decide, hasEntryNames_file _⟩

end Refused

open Refused in
/-- The earlier report stays if it cannot be removed. -/
theorem sameFiles_of_write_error_at_removal : volume.HasEntryNames ∧
    rewrite .remove = ((.error (.reportAccess "out/routes"), []), (rewrite .remove).2) ∧
    SameFiles volume (rewrite .remove).2 := by
  have hrun : rewrite .remove =
      ((.error (.reportAccess "out/routes"), []), (rewrite .remove).2) := rfl
  exact ⟨hasEntryNames_volume, hrun, sameFiles_of_write_error hasEntryNames_volume rfl hrun⟩

open Refused in
/-- If only the last call is refused, the earlier report has been removed already. -/
theorem report_lost_at_refused_write :
    volume.contentAt? ["out", "routes"] = some (.text "C:\n") ∧
    (rewrite .write).1.1 = .error (.reportAccess "out/routes") ∧
    (rewrite .write).2.contentAt? ["out", "routes"] = none := by
  refine ⟨rfl, rfl, ?_⟩
  decide +kernel

end RouteSurvey.Report
