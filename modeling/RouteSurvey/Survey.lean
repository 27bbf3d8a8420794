import RouteSurvey.Declaration.Inheritance
import RouteSurvey.Registry
import RouteSurvey.Report
import RouteSurvey.Resolution.Resolver

/-! # Surveys

A survey turns every mapped method of a declaration tree into a route and groups the
routes by class. The first method that lacks a path or a request method ends it.
-/

namespace RouteSurvey

open Declaration (Tree Ref Parameter)
open Resolution (Resolver Journal)

/-- The default value some hosts write for "no default". -/
def noDefault : String :=
  "\n\t\t\n\t\t\n\uE000\uE001\uE002\n\t\t\t\t\n"

/-- The request parameter a method parameter stands for. Its name is the one under `name`,
or under `value`, or else that of the method parameter. -/
def requestParam? (parameter : Parameter) : Option Param := do
  let marker ← Marker.ofKind? parameter.markers Marker.requestParam
  let written := marker.string? "name" <|> marker.string? "value"
  return {
    type := parameter.type.display
    name := written.getD parameter.name
    default? := (marker.string? "default_value").filter (· ≠ noDefault) }

/-- The parameter that holds the request body. -/
def bodyParameter? (parameters : List Parameter) : Option Parameter :=
  parameters.find? fun parameter =>
    (Marker.ofKind? parameter.markers Marker.requestBody).isSome

variable (tree : Tree) (config : Config)

/-- The route of a method whose attributes are known. -/
def routeOf (method : Ref) (schema : Resolution.Schema) : Route where
  className := (tree.enclosing? method).elim "" tree.qualifiedName
  handler := tree.simpleName method
  paths := schema.paths
  methods := schema.methods
  consumes := schema.consumes
  produces := schema.produces
  deprecated := schema.deprecated
  params := (tree.parameters method).filterMap requestParam?
  input? := (bodyParameter? (tree.parameters method)).bind fun body =>
    tree.payload? config body.type
  output? := (tree.returnType? method).bind (tree.payload? config)

/-- The routes of methods in order, up to the first that fails. -/
def routesOf : List Ref → Resolver (Except Resolution.Failure (List Route))
  | [] => return .ok []
  | method :: rest => do
    match ← Resolution.resolve tree method with
    | .error failure => return .error failure
    | .ok schema =>
      return (← routesOf rest).map (routeOf tree config method schema :: ·)

/-- The result of a survey. -/
structure Survey where
  registry : Registry
  /-- The findings that did not stop the survey, in the order in which they were raised -/
  warnings : List AmbiguousMapping
deriving Repr

namespace Survey

/-- The report of a survey. -/
def report (survey : Survey) : String :=
  Report.render survey.registry

/-- Surveys a declaration tree. The journal is kept also when the survey fails. -/
def run : Except Resolution.Failure Survey × Journal :=
  let methods := tree.mappedMethods
  let begun : Journal := { log := [.resolving methods.length] }
  let (routes, journal) := (routesOf tree config methods).run begun
  (routes.map fun routes => ⟨Registry.ofRoutes routes, journal.warnings⟩, journal)

end Survey

end RouteSurvey
