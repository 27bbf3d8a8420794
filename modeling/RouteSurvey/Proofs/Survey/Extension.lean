import RouteSurvey.Proofs.Registry
import RouteSurvey.Proofs.Survey.Placement
import RouteSurvey.Proofs.Survey.Warnings

/-! # An unrelated class

A class that nothing in a tree refers to may be put behind the others. Every search for a class
then finds what it found before, so the routes, the failures and the warnings that there were
stay, and those of the new class come behind them.
-/

namespace RouteSurvey

open Declaration (Tree Ref)
open Resolution

namespace Declaration.Tree

/-- The tree with one more class behind the others. -/
def adding (tree : Tree) (added : Class) : Tree :=
  ⟨tree.classes ++ [added]⟩

/-- The class has a name of its own, and nothing in the tree refers to it. -/
structure IsUnrelated (tree : Tree) (added : Class) : Prop where
  name_ne : ∀ owner ∈ tree.classes, owner.name ≠ added.name
  enclosing_ne : ∀ owner ∈ tree.classes, owner.enclosing? ≠ some added.name
  not_named : ∀ type ∈ tree.references, ¬ type.names added.name

variable {tree : Tree} {added : Class}

/-! ## Searches -/

theorem getElem?_adding {index : Nat} {owner : Class} (howner : tree.classes[index]? = some owner) :
    (tree.adding added).classes[index]? = some owner := by
  obtain ⟨hindex, -⟩ := List.getElem?_eq_some_iff.mp howner
  rw [adding, List.getElem?_append_left hindex, howner]

theorem getElem?_adding_last :
    (tree.adding added).classes[tree.classes.length]? = some added :=
  List.getElem?_concat_length

theorem findIdx?_adding {p : Class → Bool} (hp : ¬ p added) :
    (tree.adding added).classes.findIdx? p = tree.classes.findIdx? p := by
  rw [adding, List.findIdx?_append]
  simp [hp]

/-- The class is neither around another class nor its type. -/
theorem IsUnrelated.isEmbedding (hunrelated : tree.IsUnrelated added) :
    IsEmbedding id tree (tree.adding added) := by
  apply IsEmbedding.of_searches
  · exact fun _ _ => getElem?_adding
  · exact fun _ _ _ _ hsame => hsame
  · intro owner howner name hname
    have hother : ¬ (added.name == name) := by
      intro hsame
      apply hunrelated.enclosing_ne owner howner
      rw [hname, eq_of_beq hsame]
    rw [findIdx?_adding hother, Option.map_id, id]
  · intro type htype
    have hloose := hunrelated.not_named type htype
    have hexact : ¬ (added.name == type.name) := by
      intro hsame
      apply hloose
      simp [TypeRef.names, eq_of_beq hsame]
    rw [Ref.placed_id, Option.map_id, findType?, findIdx?_adding hexact, findIdx?_adding hloose]
    rfl

theorem mappedMethods_adding : (tree.adding added).mappedMethods =
    tree.mappedMethods ++ added.mappedMethods tree.classes.length := by
  rw [mappedMethods_eq_flatMap, adding, List.zipIdx_append, List.flatMap_append,
    mappedMethods_eq_flatMap]
  simp

/-- The mapped methods behind the others are those of the new class. -/
theorem mem_mappedMethods_added {ref : Ref} : ref ∈ added.mappedMethods tree.classes.length ↔
    (tree.adding added).IsMapped ref ∧ ref.classIndex = tree.classes.length := by
  rw [← mem_mappedMethods, mappedMethods_adding, List.mem_append]
  constructor
  · exact fun hmem => ⟨.inr hmem, Class.classIndex_of_mem_mappedMethods hmem⟩
  · rintro ⟨hmem | hmem, hindex⟩
    · have hrange := InRange.of_mem_mappedMethods hmem
      rw [InRange] at hrange
      omega
    · exact hmem

end Declaration.Tree

/-! ## Methods of the tree -/

variable {tree : Tree} {added : Declaration.Class} {config : Config}

section Unrelated

variable (hunrelated : tree.IsUnrelated added)

include hunrelated

theorem routesAt_adding : routesAt (tree.adding added) config tree.mappedMethods =
    routesAt tree config tree.mappedMethods := by
  have hsame : ∀ method ∈ tree.mappedMethods,
      routeAt (tree.adding added) config (method.placed id) = routeAt tree config method := by
    intro method hmethod
    exact routeAt_placed hunrelated.isEmbedding (Tree.InRange.of_mem_mappedMethods hmethod)
  have hroutes := routesAt_placed hsame
  rwa [Ref.placed_id, List.map_id] at hroutes

/-- The methods of the tree come first, then those of the new class. -/
theorem run_adding_fst (config : Config) : (Survey.run (tree.adding added) config).1 = (do
    let routes ← routesAt tree config tree.mappedMethods
    let others ← routesAt (tree.adding added) config (added.mappedMethods tree.classes.length)
    return ⟨Registry.ofRoutes (routes ++ others),
      (Survey.run (tree.adding added) config).2.warnings⟩) := by
  rw [run_fst, Tree.mappedMethods_adding, routesAt_append, routesAt_adding hunrelated]
  cases routesAt tree config tree.mappedMethods with
  | error failure => rfl
  | ok routes =>
      cases routesAt (tree.adding added) config (added.mappedMethods tree.classes.length) <;> rfl

/-- The chains of the methods of the tree are what they were, and so are the warnings. -/
theorem deservedWarnings_adding :
    deservedWarnings (tree.adding added)
        (tree.mappedMethods.flatMap (outsideIn (tree.adding added))) =
      deservedWarnings tree (tree.mappedMethods.flatMap (outsideIn tree)) := by
  have hembedding := hunrelated.isEmbedding
  have hlooked := flatMap_outsideIn_placed hembedding
  rw [Ref.placed_id, List.map_id, List.map_id] at hlooked
  rw [hlooked]
  exact deservedWarnings_eq hembedding.placement fun _ => inRange_of_mem_flatMap_outsideIn

end Unrelated

/-! ## Methods of the new class -/

/-- What is looked at first is warned about first. -/
theorem deservedWarnings_append_isPrefix (tree : Tree) (first second : List Ref) :
    deservedWarnings tree first <+: deservedWarnings tree (first ++ second) := by
  rw [deservedWarnings, deservedWarnings, ambiguousAmong, ambiguousAmong, List.filter_append,
    List.eraseDups_append, List.filterMap_append]
  exact List.prefix_append _ _

/-- The routes of the new class have a group to themselves. -/
theorem groups_adding {routes others : List Route}
    (hname : ∀ owner ∈ tree.classes, owner.name ≠ added.name)
    (hroutes : routesAt tree config tree.mappedMethods = .ok routes)
    (hothers : routesAt (tree.adding added) config
      (added.mappedMethods tree.classes.length) = .ok others) :
    (Registry.ofRoutes (routes ++ others)).groups = (Registry.ofRoutes routes).groups ++
      if others = [] then [] else [⟨added.name, others⟩] := by
  have hadded : ∀ route ∈ others, route.className = added.name := by
    intro route hroute
    obtain ⟨method, hmethod, hrouteAt⟩ := exists_method_of_mem_routes hothers hroute
    exact className_of_routeAt Tree.getElem?_adding_last hmethod hrouteAt
  rw [← Registry.groups_ofRoutes_of_className hadded]
  apply Registry.groups_ofRoutes_append
  intro route hroute other hother hsame
  obtain ⟨method, hmethod, hrouteAt⟩ := exists_method_of_mem_routes hroutes hroute
  obtain ⟨owner, howner, hclass⟩ :=
    (routeAt_isRouteOf (Tree.mem_mappedMethods.mp hmethod) hrouteAt).declaring
  refine hname owner (List.mem_of_getElem? howner) ?_
  rw [← hclass, hsame, hadded other hother]

theorem not_resolvable_of_error {method : Ref} {failure : Failure}
    (hfails : schemaAt tree method = .error failure) : ¬ Resolvable tree method := by
  rintro ⟨hpaths, hmethods⟩
  obtain ⟨-, ⟨-, hnone⟩ | ⟨-, -, hnone⟩⟩ := schemaAt_error hfails
  · exact hnone hpaths
  · exact hnone hmethods

theorem exists_routesAt_of_resolvable (config : Config) {methods : List Ref}
    (hall : ∀ method ∈ methods, Resolvable tree method) :
    ∃ routes, routesAt tree config methods = .ok routes := by
  cases hroutes : routesAt tree config methods with
  | ok routes => exact ⟨routes, rfl⟩
  | error failure =>
      obtain ⟨before, failing, after, rfl, -, hfailing⟩ := routesAt_error hroutes
      exact absurd (hall failing (by simp)) (not_resolvable_of_error hfailing)

/-! ## The whole survey -/

section Unrelated

variable (hunrelated : tree.IsUnrelated added)

include hunrelated

/-- Where the methods of the tree fail, the survey ends before it comes to the new class. -/
theorem run_adding_error {failure : Failure} (hrun : (Survey.run tree config).1 = .error failure) :
    (Survey.run (tree.adding added) config).1 = .error failure := by
  rw [run_fst] at hrun
  rw [run_adding_fst hunrelated config]
  cases hroutes : routesAt tree config tree.mappedMethods with
  | error found =>
      rw [hroutes] at hrun
      cases hrun
      rfl
  | ok routes =>
      rw [hroutes] at hrun
      contradiction

theorem run_adding_ok {survey : Survey} (hrun : (Survey.run tree config).1 = .ok survey)
    (hall : ∀ method ∈ added.mappedMethods tree.classes.length,
      Resolvable (tree.adding added) method) :
    ∃ extended routes, (Survey.run (tree.adding added) config).1 = .ok extended ∧
      List.Forall₂ (IsRouteOf (tree.adding added) config)
        (added.mappedMethods tree.classes.length) routes ∧
      extended.registry.groups = survey.registry.groups ++
        (if added.mappedMethods tree.classes.length = [] then [] else [⟨added.name, routes⟩]) ∧
      survey.warnings <+: extended.warnings := by
  obtain ⟨routes, hroutes, hregistry⟩ := exists_routesAt_of_run hrun
  obtain ⟨others, hothers⟩ := exists_routesAt_of_resolvable config hall
  have hextended := run_adding_fst hunrelated config
  rw [hroutes, hothers] at hextended
  have hforall := (routesAt_ok (fun method hmethod =>
    (Tree.mem_mappedMethods_added.mp hmethod).1) hothers).2
  have hnil : others = [] ↔ added.mappedMethods tree.classes.length = [] := by
    rw [← List.length_eq_zero_iff, ← hforall.length_eq, List.length_eq_zero_iff]
  refine ⟨_, others, hextended, hforall, ?_, ?_⟩
  · simp only [hregistry, groups_adding hunrelated.name_ne hroutes hothers, hnil]
  · rw [run_warnings_eq hextended, run_warnings_eq hrun, ← deservedWarnings_adding hunrelated,
      Tree.mappedMethods_adding, List.flatMap_append]
    exact deservedWarnings_append_isPrefix _ _ _

/-- The first method of the new class that cannot be resolved ends the survey. -/
theorem run_adding_not_resolvable {survey : Survey}
    (hrun : (Survey.run tree config).1 = .ok survey)
    (hsome : ¬ ∀ method ∈ added.mappedMethods tree.classes.length,
      Resolvable (tree.adding added) method) :
    ∃ before failing after failure,
      added.mappedMethods tree.classes.length = before ++ failing :: after ∧
      (∀ method ∈ before, Resolvable (tree.adding added) method) ∧
      ¬ Resolvable (tree.adding added) failing ∧
      (Survey.run (tree.adding added) config).1 = .error failure ∧
      failure.declaration = (tree.adding added).qualifiedName failing := by
  obtain ⟨routes, hroutes, -⟩ := exists_routesAt_of_run hrun
  have hextended := run_adding_fst hunrelated config
  rw [hroutes] at hextended
  cases hothers : routesAt (tree.adding added) config
      (added.mappedMethods tree.classes.length) with
  | ok others =>
      refine absurd (routesAt_ok (fun method hmethod => ?_) hothers).1 hsome
      exact (Tree.mem_mappedMethods_added.mp hmethod).1
  | error failure =>
      rw [hothers] at hextended
      obtain ⟨before, failing, after, hsplit, hbefore, hfailing⟩ := routesAt_error hothers
      exact ⟨before, failing, after, failure, hsplit, hbefore, not_resolvable_of_error hfailing,
        hextended, (schemaAt_error hfailing).1⟩

end Unrelated

/-- A class that nothing in a tree refers to may be put behind the others. A survey that failed
fails as before. Otherwise it finds the groups and warnings that there were, and behind them the
group of the new class if it has mapped methods, unless one of these cannot be resolved: then it
names the first such method. -/
theorem run_adding_unrelated (tree : Tree) (config : Config) {added : Declaration.Class}
    (hunrelated : tree.IsUnrelated added) :
    ∃ methods : List Ref, methods.Pairwise Ref.Before ∧
      (∀ ref, ref ∈ methods ↔
        (tree.adding added).IsMapped ref ∧ ref.classIndex = tree.classes.length) ∧
      (∀ failure, (Survey.run tree config).1 = .error failure →
        (Survey.run (tree.adding added) config).1 = .error failure) ∧
      ∀ survey, (Survey.run tree config).1 = .ok survey →
        ((∀ method ∈ methods, Resolvable (tree.adding added) method) →
          ∃ extended routes, (Survey.run (tree.adding added) config).1 = .ok extended ∧
            List.Forall₂ (IsRouteOf (tree.adding added) config) methods routes ∧
            extended.registry.groups = survey.registry.groups ++
              (if methods = [] then [] else [⟨added.name, routes⟩]) ∧
            survey.warnings <+: extended.warnings) ∧
        ((¬ ∀ method ∈ methods, Resolvable (tree.adding added) method) →
          ∃ before failing after failure, methods = before ++ failing :: after ∧
            (∀ method ∈ before, Resolvable (tree.adding added) method) ∧
            ¬ Resolvable (tree.adding added) failing ∧
            (Survey.run (tree.adding added) config).1 = .error failure ∧
            failure.declaration = (tree.adding added).qualifiedName failing) := by
  refine ⟨added.mappedMethods tree.classes.length, ?_, fun _ => Tree.mem_mappedMethods_added,
    fun _ => run_adding_error hunrelated,
    fun _ hrun => ⟨run_adding_ok hunrelated hrun, run_adding_not_resolvable hunrelated hrun⟩⟩
  have hpairwise : (tree.adding added).mappedMethods.Pairwise Ref.Before :=
    Tree.mappedMethods_pairwise
  rw [Tree.mappedMethods_adding] at hpairwise
  exact (List.pairwise_append.mp hpairwise).2.1

/-- A controller that returns a class of the tree. -/
def accounts : Tree :=
  ⟨[{ name := "api::Accounts",
      methods := [{
        name := "list"
        markers := [⟨"get_mapping", Dictionary.ofList [("value", .text "/accounts")]⟩]
        returnType? := some (.plain "Account") }] },
    { name := "model::Account", fields := [{ name := "id", type := .plain "u64" }] }]⟩

/-- A controller that lies in the other one. -/
def health : Declaration.Class :=
  { name := "api::Health"
    enclosing? := some "api::Accounts"
    methods := [{
      name := "check"
      markers := [⟨"get_mapping", Dictionary.ofList [("value", .text "/health")]⟩] }] }

/-- The new controller has its group behind that of the old one. -/
theorem run_adding_unrelated_health :
    accounts.IsUnrelated health ∧
    ∃ survey extended, (Survey.run accounts {}).1 = .ok survey ∧
      (Survey.run (accounts.adding health) {}).1 = .ok extended ∧
      survey.registry.groups.length = 1 ∧
      ∃ group, extended.registry.groups = survey.registry.groups ++ [group] ∧
        group.className = "api::Health" := by
  have hunrelated : accounts.IsUnrelated health := ⟨by decide, by decide, by decide⟩
  obtain ⟨methods, -, hmem, -, hok⟩ := run_adding_unrelated accounts {} hunrelated
  have hlength : (Survey.run accounts {}).1.map (·.registry.groups.length) = .ok 1 := by rfl
  have hends : (Survey.run (accounts.adding health) {}).1.isOk := by rfl
  have hcheck : (accounts.adding health).IsMapped (.ofMethod 2 0) :=
    Tree.mem_mappedMethods.mp (by decide)
  cases hrun : (Survey.run accounts {}).1 with
  | error failure =>
      rw [hrun] at hlength
      contradiction
  | ok survey =>
      rw [hrun] at hlength
      obtain ⟨hall, hsome⟩ := hok survey hrun
      by_cases hresolvable : ∀ method ∈ methods, Resolvable (accounts.adding health) method
      · obtain ⟨extended, routes, hextended, -, hgroups, -⟩ := hall hresolvable
        rw [if_neg (List.ne_nil_of_mem ((hmem _).mpr ⟨hcheck, rfl⟩))] at hgroups
        exact ⟨hunrelated, survey, extended, rfl, hextended, Except.ok.inj hlength,
          _, hgroups, rfl⟩
      · obtain ⟨_, _, _, failure, -, -, -, herror, -⟩ := hsome hresolvable
        rw [herror] at hends
        contradiction

end RouteSurvey
