import RouteSurvey.Proofs.Grouping
import RouteSurvey.Proofs.Registry

/-! # Grouping is stable

The groups of a registry stand in the order in which the names of their classes first occur,
and each holds the routes of its class as they came. Each further route keeps it that way,
whether its group is searched for or found at a position that a dictionary tells. So a registry
loses no route, and its routes put one behind the other are grouped as they are.
-/

namespace RouteSurvey.Registry

/-- The names of the classes of some routes, each once, in the order in which they first
occur. -/
def classNames (routes : List Route) : List String :=
  (routes.map (·.className)).eraseDups

/-- The groups are those of the classes of some routes, in the order in which the classes
first occur, and each has just the routes of its class, in order. -/
structure IsStableGrouping (routes : List Route) (groups : List RouteGroup) : Prop where
  names_eq : groups.map (·.className) = classNames routes
  routes_eq : ∀ group ∈ groups,
    group.routes = routes.filter (·.className == group.className)

variable {routes : List Route}

theorem mem_classNames {name : String} :
    name ∈ classNames routes ↔ ∃ route ∈ routes, route.className = name :=
  byClass.mem_names

theorem nodup_classNames (routes : List Route) : (classNames routes).Nodup :=
  byClass.nodup_names routes

/-! ## Gathering routes -/

theorem groups_ofRoutes_eq_map (routes : List Route) :
    (ofRoutes routes).groups = (classNames routes).map (groupOf routes) := by
  rw [groups_ofRoutes]
  exact List.map_congr_left fun name _ => byClass_itemOf routes name

/-- Groups a sequence of routes with the help of a dictionary, which tells at which position
the group of each class stands. -/
def ofRoutesByPosition (routes : List Route) : Registry :=
  ⟨(routes.foldl byClass.enter {}).items⟩

/-- Each position that the dictionary tells is that of the group with the name, so there is no
need to search the groups. -/
theorem ofRoutesByPosition_eq (routes : List Route) :
    ofRoutesByPosition routes = ofRoutes routes := by
  rw [ofRoutesByPosition, Gathering.items_foldl_enter, ← groups_ofRoutes]

/-! ## The groups of a registry -/

theorem isStableGrouping_ofRoutes (routes : List Route) :
    IsStableGrouping routes (ofRoutes routes).groups := by
  rw [groups_ofRoutes_eq_map]
  constructor
  · rw [List.map_map]
    exact List.map_id' _
  · intro group hgroup
    obtain ⟨name, -, rfl⟩ := List.mem_map.mp hgroup
    rfl

theorem routes_ne_nil_of_mem_groups {group : RouteGroup}
    (hgroup : group ∈ (ofRoutes routes).groups) : group.routes ≠ [] := by
  rw [groups_ofRoutes_eq_map] at hgroup
  obtain ⟨name, hname, rfl⟩ := List.mem_map.mp hgroup
  obtain ⟨route, hroute, hclass⟩ := mem_classNames.mp hname
  exact List.ne_nil_of_mem (List.mem_filter.mpr ⟨hroute, beq_iff_eq.mpr hclass⟩)

theorem flatMap_groups_perm (routes : List Route) :
    ((ofRoutes routes).groups.flatMap (·.routes)).Perm routes := by
  rw [groups_ofRoutes_eq_map, List.flatMap_map]
  exact flatMap_filter_key_perm (·.className) (nodup_classNames routes)
    fun route hroute => mem_classNames.mpr ⟨route, hroute, rfl⟩

theorem ofRoutes_flatMap_groups (routes : List Route) :
    ofRoutes ((ofRoutes routes).groups.flatMap (·.routes)) = ofRoutes routes := by
  have hnames : ((ofRoutes routes).groups.map (·.className)).Nodup := by
    rw [(isStableGrouping_ofRoutes routes).names_eq]
    exact nodup_classNames routes
  have hgroups := groups_ofRoutes_flatMap RouteGroup.className RouteGroup.routes hnames
    (isFiled_ofRoutes routes)
  refine congrArg Registry.mk (hgroups.trans ?_)
  have hsingle : ∀ group ∈ (ofRoutes routes).groups, (ofRoutes group.routes).groups = [group] := by
    intro group hgroup
    rw [groups_ofRoutes_of_className (isFiled_ofRoutes routes group hgroup),
      if_neg (routes_ne_nil_of_mem_groups hgroup)]
  rw [List.flatMap_congr hsingle]
  exact List.flatMap_singleton' _

/-- A registry groups its routes stably. No group is empty, the groups have all routes between
them, and grouping these once more, group by group, gives the same registry. -/
theorem ofRoutes_groups_stably (routes : List Route) :
    IsStableGrouping routes (ofRoutes routes).groups ∧
    (∀ group ∈ (ofRoutes routes).groups, group.routes ≠ []) ∧
    (ofRoutes routes).routeCount = routes.length ∧
    ((ofRoutes routes).groups.flatMap (·.routes)).Perm routes ∧
    ofRoutes ((ofRoutes routes).groups.flatMap (·.routes)) = ofRoutes routes :=
  ⟨isStableGrouping_ofRoutes routes, fun _ => routes_ne_nil_of_mem_groups,
    (flatMap_groups_perm routes).length_eq, flatMap_groups_perm routes,
    ofRoutes_flatMap_groups routes⟩

end RouteSurvey.Registry
