import RouteSurvey.Route

/-! # Registries

Routes grouped by the class that declares them. Groups stand in the order in which their
first route was seen, and routes keep their order within a group.
-/

namespace RouteSurvey

/-- The routes of one class. -/
structure RouteGroup where
  className : String
  routes : List Route
deriving DecidableEq, Repr, Inhabited

/-- The routes of a survey, grouped by class. -/
structure Registry where
  groups : List RouteGroup := []
deriving DecidableEq, Repr, Inhabited

namespace Registry

/-- Adds a route to the group of its class, opening the group at the end if need be. -/
def addTo (route : Route) : List RouteGroup → List RouteGroup
  | [] => [⟨route.className, [route]⟩]
  | group :: rest =>
    if group.className = route.className then
      { group with routes := group.routes ++ [route] } :: rest
    else group :: addTo route rest

/-- Groups a sequence of routes. -/
def ofRoutes (routes : List Route) : Registry :=
  ⟨routes.foldl (fun groups route => addTo route groups) []⟩

/-- There is no group. -/
def isEmpty (registry : Registry) : Bool :=
  registry.groups.isEmpty

/-- The number of routes in all groups. -/
def routeCount (registry : Registry) : Nat :=
  (registry.groups.flatMap (·.routes)).length

end Registry

end RouteSurvey
