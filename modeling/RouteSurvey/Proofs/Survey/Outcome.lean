import RouteSurvey.Proofs.Declaration.MappedMethods
import RouteSurvey.Proofs.Resolution.Required
import RouteSurvey.Survey

/-! # How a survey ends

A survey succeeds exactly if every mapped method has paths and request methods somewhere on
its chain. It then has one route for each of these methods, in declaration order. Otherwise
it names the first method that lacks one of the two.
-/

namespace RouteSurvey

open Declaration (Tree Ref)
open Resolution

section Routes

variable (tree : Tree) (config : Config)

/-- The routes of methods in order, up to the first that fails, without a trace. -/
def routesAt : List Ref → Except Failure (List Route)
  | [] => .ok []
  | method :: rest =>
    match schemaAt tree method with
    | .error failure => .error failure
    | .ok schema => (routesAt rest).map (routeOf tree config method schema :: ·)

/-- The declaration, or one around it, has paths, and one has request methods. -/
def Resolvable (ref : Ref) : Prop :=
  Provided tree Mapping.paths ref ∧ Provided tree Mapping.methods ref

/-- What the route of a method is. -/
structure IsRouteOf (method : Ref) (route : Route) : Prop where
  /-- The route carries the attributes that a new resolver finds for the method -/
  resolved : ∃ schema, ((resolve tree method).run {}).1 = .ok schema ∧
    route = routeOf tree config method schema
  declaring : ∃ owner, tree.classAt? method = some owner ∧ route.className = owner.name
  handling : ∃ declared, tree.methodAt? method = some declared ∧ route.handler = declared.name
  paths_ne_nil : route.paths ≠ []
  paths_ne_empty : "" ∉ route.paths
  methods_ne_nil : route.methods ≠ []
  methods_nodup : route.methods.Nodup

end Routes

variable {tree : Tree} {config : Config}

theorem routesOf_run_fst (methods : List Ref) (journal : Journal) :
    ((routesOf tree config methods).run journal).1 = routesAt tree config methods := by
  induction methods generalizing journal with
  | nil => rfl
  | cons method rest ih =>
      rw [routesOf, run_bind, resolve_run_fst, routesAt]
      cases schemaAt tree method with
      | error failure => rfl
      | ok schema =>
          simp only [run_bind]
          rw [ih]
          rfl

theorem run_fst (tree : Tree) (config : Config) :
    (Survey.run tree config).1 =
      (routesAt tree config tree.mappedMethods).map fun routes =>
        ⟨Registry.ofRoutes routes, (Survey.run tree config).2.warnings⟩ := by
  rw [← routesOf_run_fst tree.mappedMethods { log := [.resolving tree.mappedMethods.length] }]
  rfl

theorem exists_routesAt_of_run {survey : Survey} (hrun : (Survey.run tree config).1 = .ok survey) :
    ∃ routes, routesAt tree config tree.mappedMethods = .ok routes ∧
      survey.registry = Registry.ofRoutes routes := by
  rw [run_fst] at hrun
  cases hroutes : routesAt tree config tree.mappedMethods with
  | error failure =>
      rw [hroutes] at hrun
      contradiction
  | ok routes =>
      rw [hroutes] at hrun
      cases hrun
      exact ⟨routes, rfl, rfl⟩

theorem resolvable_of_schemaAt_ok {method : Ref} {schema : Schema}
    (hschema : schemaAt tree method = .ok schema) : Resolvable tree method :=
  ⟨(schemaAt_ok hschema).1, (schemaAt_ok hschema).2.1⟩

theorem routeOf_isRouteOf {method : Ref} {schema : Schema} (hmapped : tree.IsMapped method)
    (hschema : schemaAt tree method = .ok schema) :
    IsRouteOf tree config method (routeOf tree config method schema) := by
  obtain ⟨declared, hdeclared, _⟩ := hmapped
  obtain ⟨_, _, hcomplete⟩ := schemaAt_ok hschema
  cases method with
  | ofClass index => contradiction
  | ofMethod index position =>
      obtain ⟨owner, howner, _⟩ := Tree.methodAt?_ofMethod.mp hdeclared
      have hclass : tree.classAt? (.ofClass index) = some owner := howner
      refine ⟨⟨schema, (resolve_run_fst tree _ _).trans hschema, rfl⟩, ⟨owner, howner, ?_⟩,
        ⟨declared, hdeclared, ?_⟩, hcomplete.paths_ne_nil, hcomplete.paths_ne_empty,
        hcomplete.methods_ne_nil, hcomplete.methods_nodup⟩
      · simp [routeOf, Tree.enclosing?, Tree.qualifiedName, Tree.methodAt?, hclass]
      · simp [routeOf, Tree.simpleName, hdeclared]

/-! ## Methods in order -/

/-- The routes of several methods begin with that of the first. -/
theorem routesAt_cons_ok {method : Ref} {rest : List Ref} {routes : List Route}
    (hroutes : routesAt tree config (method :: rest) = .ok routes) :
    ∃ schema others, schemaAt tree method = .ok schema ∧
      routesAt tree config rest = .ok others ∧
      routes = routeOf tree config method schema :: others := by
  rw [routesAt] at hroutes
  cases hschema : schemaAt tree method with
  | error failure =>
      rw [hschema] at hroutes
      contradiction
  | ok schema =>
      rw [hschema] at hroutes
      cases hothers : routesAt tree config rest with
      | error failure =>
          rw [hothers] at hroutes
          contradiction
      | ok others =>
          rw [hothers] at hroutes
          cases hroutes
          exact ⟨schema, others, rfl, rfl, rfl⟩

/-- Either the first method fails, or it resolves and the failure lies behind it. -/
theorem routesAt_cons_error {method : Ref} {rest : List Ref} {failure : Failure}
    (hroutes : routesAt tree config (method :: rest) = .error failure) :
    schemaAt tree method = .error failure ∨
      ∃ schema, schemaAt tree method = .ok schema ∧
        routesAt tree config rest = .error failure := by
  rw [routesAt] at hroutes
  cases hschema : schemaAt tree method with
  | error failure' =>
      rw [hschema] at hroutes
      cases hroutes
      exact Or.inl rfl
  | ok schema =>
      rw [hschema] at hroutes
      cases hothers : routesAt tree config rest with
      | error failure' =>
          rw [hothers] at hroutes
          cases hroutes
          exact Or.inr ⟨schema, rfl, rfl⟩
      | ok others =>
          rw [hothers] at hroutes
          contradiction

/-- Where all methods resolve, each has its route. -/
theorem routesAt_ok {methods : List Ref} {routes : List Route}
    (hmapped : ∀ method ∈ methods, tree.IsMapped method)
    (hroutes : routesAt tree config methods = .ok routes) :
    (∀ method ∈ methods, Resolvable tree method) ∧
      List.Forall₂ (IsRouteOf tree config) methods routes := by
  induction methods generalizing routes with
  | nil =>
      cases hroutes
      exact ⟨fun _ hmem => absurd hmem List.not_mem_nil, List.Forall₂.nil⟩
  | cons method rest ih =>
      obtain ⟨hmethod, hrest⟩ := List.forall_mem_cons.mp hmapped
      obtain ⟨schema, others, hschema, hothers, rfl⟩ := routesAt_cons_ok hroutes
      obtain ⟨hresolvable, hforall⟩ := ih hrest hothers
      constructor
      · exact List.forall_mem_cons.mpr ⟨resolvable_of_schemaAt_ok hschema, hresolvable⟩
      · exact List.Forall₂.cons (routeOf_isRouteOf hmethod hschema) hforall

/-- Where a method fails, all before it resolve. -/
theorem routesAt_error {methods : List Ref} {failure : Failure}
    (hroutes : routesAt tree config methods = .error failure) :
    ∃ before failing after, methods = before ++ failing :: after ∧
      (∀ method ∈ before, Resolvable tree method) ∧
      schemaAt tree failing = .error failure := by
  induction methods with
  | nil => contradiction
  | cons method rest ih =>
      obtain hfails | ⟨schema, hschema, hrest⟩ := routesAt_cons_error hroutes
      · exact ⟨[], method, rest, rfl, fun _ hmem => absurd hmem List.not_mem_nil, hfails⟩
      · obtain ⟨before, failing, after, rfl, hbefore, hfailing⟩ := ih hrest
        refine ⟨method :: before, failing, after, rfl, ?_, hfailing⟩
        intro other hother
        rcases List.mem_cons.mp hother with rfl | hother
        · exact resolvable_of_schemaAt_ok hschema
        · exact hbefore other hother

/-- A survey turns the mapped methods into routes, or names the first that has no path or no
request method on its chain. -/
theorem run_routes_mapped_methods (tree : Tree) (config : Config) :
    ∃ methods : List Ref, methods.Pairwise Ref.Before ∧
      (∀ ref, ref ∈ methods ↔ tree.IsMapped ref) ∧
      ((∃ survey, (Survey.run tree config).1 = .ok survey) ↔
        ∀ ref, tree.IsMapped ref → Resolvable tree ref) ∧
      match (Survey.run tree config).1 with
      | .ok survey => ∃ routes, survey.registry = Registry.ofRoutes routes ∧
          List.Forall₂ (IsRouteOf tree config) methods routes
      | .error failure => ∃ before failing after, methods = before ++ failing :: after ∧
          (∀ ref ∈ before, Resolvable tree ref) ∧
          failure.declaration = tree.qualifiedName failing ∧
          (failure.missing = .path ∧ ¬ Provided tree Mapping.paths failing ∨
            failure.missing = .methods ∧ Provided tree Mapping.paths failing ∧
              ¬ Provided tree Mapping.methods failing) := by
  refine ⟨tree.mappedMethods, Tree.mappedMethods_pairwise, fun ref => Tree.mem_mappedMethods, ?_⟩
  rw [run_fst]
  cases hroutes : routesAt tree config tree.mappedMethods with
  | ok routes =>
      obtain ⟨hresolvable, hroutes⟩ :=
        routesAt_ok (fun method => Tree.mem_mappedMethods.mp) hroutes
      refine ⟨⟨fun _ ref hmapped => ?_, fun _ => ⟨_, rfl⟩⟩, routes, rfl, hroutes⟩
      exact hresolvable ref (Tree.mem_mappedMethods.mpr hmapped)
  | error failure =>
      obtain ⟨before, failing, after, hsplit, hbefore, hfailing⟩ := routesAt_error hroutes
      obtain ⟨hdeclaration, hmissing⟩ := schemaAt_error hfailing
      refine ⟨⟨fun ⟨survey, hsurvey⟩ => ?_, fun hall => ?_⟩,
        before, failing, after, hsplit, hbefore, hdeclaration, hmissing⟩
      · contradiction
      · -- The failing method is mapped, so it would have to be resolvable.
        have hmapped : tree.IsMapped failing := by
          refine Tree.mem_mappedMethods.mp ?_
          rw [hsplit]
          simp
        obtain ⟨hpaths, hmethods⟩ := hall failing hmapped
        rcases hmissing with ⟨_, hnone⟩ | ⟨_, _, hnone⟩
        · exact absurd hpaths hnone
        · exact absurd hmethods hnone

end RouteSurvey
