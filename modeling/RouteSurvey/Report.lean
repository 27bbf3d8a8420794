import RouteSurvey.Registry

/-! # Reports

The text of a registry: a block of lines for each class. A later report is put behind
the earlier one, which is kept as it is.
-/

namespace RouteSurvey.Report

/-- The items with a separator between each two. -/
def joined (separator : String) (items : List String) : String :=
  separator.intercalate items

/-- The line of a parameter or field, behind an indentation. -/
def paramLine (indent : String) (param : Param) : String :=
  indent ++ "- " ++ param.type ++ " " ++ param.name ++
    param.default?.elim "" fun value => " (default: " ++ value ++ ")"

/-- The lines of a payload under its label; none if there is no payload. -/
def payloadLines (label : String) : Option Payload → List String
  | none => []
  | some payload =>
    ("\t\t" ++ label ++ ": " ++ payload.name) :: payload.fields.map (paramLine "\t\t\t")

/-- A note in parentheses on media types; nothing if there are none. -/
def mediaTypes (label : String) (types : List String) : String :=
  if types.isEmpty then "" else " (" ++ label ++ ": " ++ joined "|" types ++ ")"

/-- The line that names the methods, paths and media types of a route. -/
def headLine (route : Route) : String :=
  "\t- " ++ (if route.deprecated then "[DEPRECATED] " else "") ++
    "[" ++ joined "|" (route.methods.map HttpMethod.name) ++ "] [" ++
    joined "|" route.paths ++ "]" ++
    mediaTypes "expects" route.consumes ++ mediaTypes "returns" route.produces

/-- The lines of a route. -/
def routeLines (route : Route) : List String :=
  headLine route :: (route.params.map (paramLine "\t\t") ++
    payloadLines "input" route.input? ++ payloadLines "output" route.output?)

/-- The lines of a group. -/
def groupLines (group : RouteGroup) : List String :=
  (group.className ++ ":") :: group.routes.flatMap routeLines

/-- The lines of a registry. -/
def lines (registry : Registry) : List String :=
  registry.groups.flatMap groupLines

/-- The text of a registry; every line ends in a line feed. -/
def render (registry : Registry) : String :=
  String.join ((lines registry).map (· ++ "\n"))

/-- Puts a new report behind the previous one. -/
def merge (previous : Option String) (fresh : String) : String :=
  previous.elim fresh (· ++ fresh)

end RouteSurvey.Report
