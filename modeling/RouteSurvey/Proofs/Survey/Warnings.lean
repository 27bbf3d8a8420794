import RouteSurvey.Proofs.Resolution.Warnings
import RouteSurvey.Proofs.Survey.Outcome

/-! # The warnings of a survey

A survey asks one resolver about all mapped methods. Its warnings are therefore those about
the ambiguous declarations on the chains of these methods.
-/

namespace RouteSurvey

open Declaration (Tree Ref)
open Resolution

variable {tree : Tree} {config : Config}

/-- Where all methods resolve, all their chains have been looked at. -/
theorem routesOf_reports {methods : List Ref} {routes : List Route} {journal : Journal}
    {lookedAt : List Ref} (hreports : Journal.Reports tree journal lookedAt)
    (hroutes : routesAt tree config methods = .ok routes) :
    Journal.Reports tree ((routesOf tree config methods).run journal).2
      (lookedAt ++ methods.flatMap (outsideIn tree)) := by
  induction methods generalizing journal lookedAt routes with
  | nil =>
      rw [List.flatMap_nil, List.append_nil]
      exact hreports
  | cons method rest ih =>
      obtain ⟨schema, others, hschema, hothers, rfl⟩ := routesAt_cons_ok hroutes
      rw [routesOf, run_bind, resolve_run_fst, hschema, List.flatMap_cons, ← List.append_assoc]
      exact ih (hreports.resolve method) hothers

/-- A survey that succeeds has looked at the chains of all mapped methods. -/
theorem run_reports {survey : Survey} (hrun : (Survey.run tree config).1 = .ok survey) :
    survey.warnings = (Survey.run tree config).2.warnings ∧
      Journal.Reports tree (Survey.run tree config).2
        (tree.mappedMethods.flatMap (outsideIn tree)) := by
  rw [run_fst] at hrun
  cases hroutes : routesAt tree config tree.mappedMethods with
  | error failure =>
      rw [hroutes] at hrun
      contradiction
  | ok routes =>
      rw [hroutes] at hrun
      cases hrun
      have hbegun : Journal.Reports tree { log := [.resolving tree.mappedMethods.length] } [] :=
        Journal.Reports.empty.note [.resolving tree.mappedMethods.length]
      exact ⟨rfl, routesOf_reports hbegun hroutes⟩

theorem run_warnings_eq {survey : Survey} (hrun : (Survey.run tree config).1 = .ok survey) :
    survey.warnings = deservedWarnings tree (tree.mappedMethods.flatMap (outsideIn tree)) := by
  obtain ⟨hwarnings, hreports⟩ := run_reports hrun
  rw [hwarnings, hreports.warnings_eq]

/-- Whatever one resolver is asked, its answers are those of a new one, and its warnings are
about the ambiguous declarations it has looked at. A survey is one such resolver. -/
theorem warnings_of_questions (tree : Tree) (queries : List Query) (config : Config) :
    ((queries.mapM (Query.ask tree)).run {}).1 =
        (queries.map fun query => ((query.ask tree).run {}).1) ∧
      WarnsAbout tree (queries.flatMap (Query.lookedAt tree))
        ((queries.mapM (Query.ask tree)).run {}).2.warnings ∧
      (∀ ref, tree.IsEnclosingChain ref (outsideIn tree ref).reverse) ∧
      ∀ survey, (Survey.run tree config).1 = .ok survey →
        WarnsAbout tree (tree.mappedMethods.flatMap (outsideIn tree)) survey.warnings := by
  refine ⟨mapM_ask_run_fst queries {}, (Journal.Reports.empty.mapM_ask queries).warnsAbout, ?_, ?_⟩
  · intro ref
    rw [outsideIn, List.reverse_reverse]
    exact tree.chain_isEnclosingChain ref
  · intro survey hrun
    obtain ⟨hwarnings, hreports⟩ := run_reports hrun
    exact hwarnings ▸ hreports.warnsAbout

end RouteSurvey
