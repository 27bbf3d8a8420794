import RouteSurvey.Http.Method

/-! # Routes

What a survey finds out about one endpoint.
-/

namespace RouteSurvey

/-- A named value with its type: a request parameter, or a field of a payload. -/
structure Param where
  type : String
  name : String
  /-- Absent when the parameter is required, and for fields -/
  default? : Option String := none
deriving DecidableEq, Repr, Inhabited

/-- The shape of the data a request or a response carries. -/
structure Payload where
  /-- The name of the type as referenced; an envelope keeps its own name -/
  name : String
  /-- Own fields first, then those of each ancestor -/
  fields : List Param := []
deriving DecidableEq, Repr, Inhabited

/-- One endpoint. -/
structure Route where
  /-- The qualified name of the class that declares the handler -/
  className : String
  /-- The simple name of the handler -/
  handler : String
  paths : List String
  methods : List HttpMethod
  consumes : List String
  produces : List String
  deprecated : Bool
  /-- The query and form parameters, in declaration order -/
  params : List Param
  /-- The request body -/
  input? : Option Payload
  /-- The response -/
  output? : Option Payload
deriving DecidableEq, Repr, Inhabited

end RouteSurvey
