import RouteSurvey.Proofs.Gathering
import RouteSurvey.Registry

/-! # Grouping routes

Routes are put into groups one after the other, and so each group gathers the routes of its
class. A class without a group gets one behind the groups that are there, so routes that have no
class in common with the routes before them are grouped as if they were alone.
-/

namespace RouteSurvey.Registry

/-- Routes are gathered by the classes that declare them. -/
def byClass : Gathering Route RouteGroup where
  key := Route.className
  name := RouteGroup.className
  empty name := ⟨name, []⟩
  add group route := { group with routes := group.routes ++ [route] }
  name_empty _ := rfl
  name_add _ _ := rfl

/-- The routes of the class of a name, in order. -/
def groupOf (routes : List Route) (name : String) : RouteGroup :=
  ⟨name, routes.filter (·.className == name)⟩

theorem byClass_put : byClass.put = fun groups route => addTo route groups := by
  funext groups route
  induction groups with
  | nil => rfl
  | cons group rest ih =>
      rw [Gathering.put, addTo, ih]
      rfl

theorem groups_ofRoutes (routes : List Route) :
    (ofRoutes routes).groups = byClass.gather routes := by
  rw [← Gathering.foldl_put, byClass_put]
  rfl

theorem foldl_byClass_add (group : RouteGroup) (routes : List Route) :
    routes.foldl byClass.add group = { group with routes := group.routes ++ routes } := by
  induction routes generalizing group with
  | nil => rw [List.append_nil, List.foldl_nil]
  | cons route rest ih =>
      rw [List.foldl_cons, ih, List.append_cons group.routes route rest]
      rfl

theorem byClass_itemOf (routes : List Route) (name : String) :
    byClass.itemOf routes name = groupOf routes name := by
  rw [Gathering.itemOf, foldl_byClass_add]
  rfl

/-! ## Groups apart -/

/-- Routes without a class in common are grouped apart. -/
theorem groups_ofRoutes_append {first second : List Route}
    (hdisjoint : ∀ route ∈ first, ∀ other ∈ second, route.className ≠ other.className) :
    (ofRoutes (first ++ second)).groups = (ofRoutes first).groups ++ (ofRoutes second).groups := by
  simp only [groups_ofRoutes]
  exact byClass.gather_append hdisjoint

/-- Every route stands in the group of its class. -/
def IsFiled (groups : List RouteGroup) : Prop :=
  ∀ group ∈ groups, ∀ route ∈ group.routes, route.className = group.className

theorem isFiled_ofRoutes (routes : List Route) : IsFiled (ofRoutes routes).groups := by
  rw [groups_ofRoutes]
  intro group hgroup route hroute
  obtain ⟨name, -, rfl⟩ := List.mem_map.mp hgroup
  rw [byClass_itemOf] at hroute ⊢
  exact beq_iff_eq.mp (List.mem_filter.mp hroute).2

/-- The routes of one class are one group, if there are any. -/
theorem groups_ofRoutes_of_className {name : String} {routes : List Route}
    (hclass : ∀ route ∈ routes, route.className = name) :
    (ofRoutes routes).groups = if routes = [] then [] else [⟨name, routes⟩] := by
  split
  next hnone =>
    rw [hnone]
    rfl
  next hsome =>
    rw [groups_ofRoutes, byClass.gather_of_key hsome hclass, foldl_byClass_add]
    rfl

/-- Where the routes of each class stand together, its group comes at its place. -/
theorem groups_ofRoutes_flatMap {α : Type} (className : α → String) (routes : α → List Route)
    {classes : List α} (hnames : (classes.map className).Nodup)
    (hclass : ∀ owner ∈ classes, ∀ route ∈ routes owner, route.className = className owner) :
    (ofRoutes (classes.flatMap routes)).groups =
      classes.flatMap fun owner => (ofRoutes (routes owner)).groups := by
  induction classes with
  | nil => rfl
  | cons owner rest ih =>
      obtain ⟨howner, hclass⟩ := List.forall_mem_cons.mp hclass
      obtain ⟨hnew, hnames⟩ := List.nodup_cons.mp hnames
      rw [List.flatMap_cons, List.flatMap_cons, groups_ofRoutes_append, ih hnames hclass]
      intro route hroute other hother hsame
      obtain ⟨later, hlater, hother⟩ := List.mem_flatMap.mp hother
      refine hnew (List.mem_map.mpr ⟨later, hlater, ?_⟩)
      rw [← hclass later hlater other hother, ← hsame, howner route hroute]

end RouteSurvey.Registry
