import RouteSurvey.Proofs.Declaration.ClassOrder
import RouteSurvey.Proofs.Registry
import RouteSurvey.Proofs.Survey.Placement
import RouteSurvey.Proofs.Survey.Warnings

/-! # The order of classes does not matter

A survey goes through a tree class by class, and what it finds out about one class does not
depend on where the classes stand. With the classes in another order it ends in the same way,
with the groups of routes in another order.
-/

namespace RouteSurvey

open Declaration (Tree Ref)
open Resolution

/-- The routes of the mapped methods of a class, or why they have none. -/
def outcomesOf (tree : Tree) (config : Config) (owner : Declaration.Class) :
    List (Except Failure Route) :=
  (owner.mappedMethods (tree.indexOf owner.name)).map (routeAt tree config)

/-- The routes of those mapped methods of a class that have one. -/
def classRoutes (tree : Tree) (config : Config) (owner : Declaration.Class) : List Route :=
  (outcomesOf tree config owner).filterMap Except.toOption

variable {tree other : Tree} {config : Config}

/-! ## Class by class -/

section Classes

variable (hnames : (tree.classes.map (·.name)).Nodup)

include hnames

theorem map_routeAt_mappedMethods : tree.mappedMethods.map (routeAt tree config) =
    tree.classes.flatMap (outcomesOf tree config) := by
  rw [Tree.mappedMethods_eq_flatMap_indexOf hnames, List.map_flatMap]
  rfl

theorem exists_run_ok_iff : (∃ survey, (Survey.run tree config).1 = .ok survey) ↔
    ∀ owner ∈ tree.classes, ∀ outcome ∈ outcomesOf tree config owner,
      ∃ route, outcome = .ok route := by
  have hroutes : (∃ survey, (Survey.run tree config).1 = .ok survey) ↔
      ∃ routes, routesAt tree config tree.mappedMethods = .ok routes := by
    rw [run_fst]
    cases routesAt tree config tree.mappedMethods <;> simp [Except.map]
  rw [hroutes, exists_routesAt_iff, map_routeAt_mappedMethods hnames]
  simp only [List.mem_flatMap]
  constructor
  · exact fun hall owner howner outcome houtcome => hall outcome ⟨owner, howner, houtcome⟩
  · rintro hall outcome ⟨owner, howner, houtcome⟩
    exact hall owner howner outcome houtcome

/-- The routes of a class carry its name. -/
theorem className_of_mem_classRoutes {owner : Declaration.Class} (howner : owner ∈ tree.classes)
    {route : Route} (hroute : route ∈ classRoutes tree config owner) :
    route.className = owner.name := by
  obtain ⟨outcome, houtcome, hok⟩ := List.mem_filterMap.mp hroute
  obtain ⟨method, hmethod, rfl⟩ := List.mem_map.mp houtcome
  cases houtcome : routeAt tree config method with
  | error failure => simp [houtcome, Except.toOption] at hok
  | ok found =>
      rw [houtcome] at hok
      cases hok
      exact className_of_routeAt (Tree.getElem?_indexOf hnames howner) hmethod houtcome

/-- Each class has its group at its own place. -/
theorem groups_of_run {survey : Survey} (hrun : (Survey.run tree config).1 = .ok survey) :
    survey.registry.groups = tree.classes.flatMap fun owner =>
      (Registry.ofRoutes (classRoutes tree config owner)).groups := by
  obtain ⟨routes, hroutes, hregistry⟩ := exists_routesAt_of_run hrun
  have hflat : routes = tree.classes.flatMap (classRoutes tree config) := by
    have hoks := routesAt_eq_ok_iff.mp hroutes
    rw [map_routeAt_mappedMethods hnames] at hoks
    have hkept := congrArg (List.filterMap Except.toOption) hoks
    rw [List.filterMap_flatMap, List.filterMap_map] at hkept
    exact (hkept.trans List.filterMap_some).symm
  rw [hregistry, hflat]
  exact Registry.groups_ofRoutes_flatMap (·.name) (classRoutes tree config) hnames
    fun owner howner route => className_of_mem_classRoutes hnames howner

end Classes

/-! ## Another order -/

section Order

variable (hperm : other.classes.Perm tree.classes) (hnames : (tree.classes.map (·.name)).Nodup)
  (hreferences : ∀ type ∈ tree.references, tree.IsUnambiguous type)

include hperm hnames hreferences

/-- The methods of a class have the same routes in any order of the classes. -/
theorem outcomesOf_perm {owner : Declaration.Class} (howner : owner ∈ tree.classes) :
    outcomesOf other config owner = outcomesOf tree config owner := by
  rw [outcomesOf, outcomesOf, Tree.mappedMethods_moved hnames howner, List.map_map]
  refine List.map_congr_left fun method hmethod => ?_
  apply routeAt_placed (Tree.moved_isEmbedding hperm hnames hreferences)
  exact Tree.InRange.of_mem_mappedMethods
    (Tree.mem_mappedMethods_of_class (Tree.getElem?_indexOf hnames howner) hmethod)

/-- A survey ends in the same way. -/
theorem exists_run_ok_perm : (∃ survey, (Survey.run other config).1 = .ok survey) ↔
    ∃ survey, (Survey.run tree config).1 = .ok survey := by
  rw [exists_run_ok_iff hnames, exists_run_ok_iff (Tree.nodup_names_of_perm hperm hnames)]
  constructor
  · intro hall owner howner
    rw [← outcomesOf_perm hperm hnames hreferences howner]
    exact hall owner (hperm.mem_iff.mpr howner)
  · intro hall owner howner
    have hmem := hperm.mem_iff.mp howner
    rw [outcomesOf_perm hperm hnames hreferences hmem]
    exact hall owner hmem

theorem groups_perm {survey survey' : Survey} (hrun : (Survey.run tree config).1 = .ok survey)
    (hrun' : (Survey.run other config).1 = .ok survey') :
    survey'.registry.groups.Perm survey.registry.groups := by
  rw [groups_of_run hnames hrun, groups_of_run (Tree.nodup_names_of_perm hperm hnames) hrun']
  refine (List.Perm.of_eq (List.flatMap_congr fun owner howner => ?_)).trans
    (hperm.flatMap_right _)
  rw [classRoutes, outcomesOf_perm hperm hnames hreferences (hperm.mem_iff.mp howner)]
  rfl

theorem warnings_perm {survey survey' : Survey} (hrun : (Survey.run tree config).1 = .ok survey)
    (hrun' : (Survey.run other config).1 = .ok survey') :
    survey'.warnings.Perm survey.warnings := by
  have hembedding := Tree.moved_isEmbedding hperm hnames hreferences
  rw [run_warnings_eq hrun, run_warnings_eq hrun']
  refine deservedWarnings_perm hembedding.placement (fun _ => inRange_of_mem_flatMap_outsideIn)
    (fun _ _ => hembedding.placed_inj) fun ref => ?_
  have hmethods := Tree.mappedMethods_perm hperm hnames
  rw [(hmethods.flatMap_right _).mem_iff, flatMap_outsideIn_placed hembedding]

end Order

/-- Where no reference can be taken for two classes, a survey of the classes in another order
ends in the same way. If it succeeds it has the same groups of routes, each with its routes in
the same order, and the same warnings. -/
theorem run_perm_classes (tree other : Tree) (config : Config)
    (hperm : other.classes.Perm tree.classes) (hnames : (tree.classes.map (·.name)).Nodup)
    (hreferences : ∀ type ∈ tree.references, tree.IsUnambiguous type) :
    ((∃ survey, (Survey.run other config).1 = .ok survey) ↔
      ∃ survey, (Survey.run tree config).1 = .ok survey) ∧
    ∀ survey survey', (Survey.run tree config).1 = .ok survey →
      (Survey.run other config).1 = .ok survey' →
      survey'.registry.groups.Perm survey.registry.groups ∧
        survey'.warnings.Perm survey.warnings := by
  refine ⟨exists_run_ok_perm hperm hnames hreferences, fun survey survey' hrun hrun' => ?_⟩
  constructor
  · exact groups_perm hperm hnames hreferences hrun hrun'
  · exact warnings_perm hperm hnames hreferences hrun hrun'

/-- Two controllers, one of them in the other, and a payload with a superclass. -/
def shop : Tree :=
  let path (s : String) : Dictionary Literal := Dictionary.ofList [("value", .text s)]
  ⟨[{ name := "shop::Shop", markers := [⟨"request_mapping", path "/shop"⟩],
      methods := [{ name := "open", markers := [⟨"get_mapping", path "/"⟩] }] },
    { name := "shop::Orders", enclosing? := some "shop::Shop",
      markers := [⟨"request_mapping", path "/orders"⟩, ⟨"get_mapping", path "/all"⟩],
      methods := [{
        name := "list"
        markers := [⟨"get_mapping", path "/"⟩]
        returnType? := some (.plain "Order") }] },
    { name := "model::Order", superclass? := some (.plain "Entity"),
      fields := [{ name := "total", type := .plain "u32" }] },
    { name := "model::Entity", fields := [{ name := "id", type := .plain "u64" }] }]⟩

/-- The same classes the other way round. -/
def shopReversed : Tree :=
  ⟨shop.classes.reverse⟩

/-- The second controller comes first now, and nothing else has changed. -/
theorem run_perm_classes_shop :
    ∃ survey survey', (Survey.run shop {}).1 = .ok survey ∧
      (Survey.run shopReversed {}).1 = .ok survey' ∧
      survey.registry.groups.map (·.className) = ["shop::Shop", "shop::Orders"] ∧
      survey'.registry.groups.map (·.className) = ["shop::Orders", "shop::Shop"] ∧
      survey'.registry.groups.Perm survey.registry.groups ∧
      survey'.warnings.Perm survey.warnings := by
  have hnames : (shop.classes.map (·.name)).Nodup := by decide
  have hreferences : ∀ type ∈ shop.references, shop.IsUnambiguous type := by decide
  have hsame := run_perm_classes shop shopReversed {} (List.reverse_perm _) hnames hreferences
  have hshop : (Survey.run shop {}).1.map (·.registry.groups.map (·.className)) =
      .ok ["shop::Shop", "shop::Orders"] := by rfl
  have hreversed : (Survey.run shopReversed {}).1.map (·.registry.groups.map (·.className)) =
      .ok ["shop::Orders", "shop::Shop"] := by rfl
  cases hrun : (Survey.run shop {}).1 with
  | error failure =>
      rw [hrun] at hshop
      contradiction
  | ok survey =>
      obtain ⟨survey', hrun'⟩ := hsame.1.mpr ⟨survey, hrun⟩
      rw [hrun] at hshop
      rw [hrun'] at hreversed
      obtain ⟨hgroups, hwarnings⟩ := hsame.2 survey survey' hrun hrun'
      exact ⟨survey, survey', rfl, hrun', Except.ok.inj hshop, Except.ok.inj hreversed,
        hgroups, hwarnings⟩

end RouteSurvey
