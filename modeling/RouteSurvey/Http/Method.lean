import RouteSurvey.Name
import RouteSurvey.Text.Whitespace

/-! # Request methods

The request methods a mapping can declare, and how a written token is read as one.
-/

namespace RouteSurvey

/-- A request method of HTTP. -/
inductive HttpMethod where
  | get | head | post | put | patch | delete | options | trace
deriving DecidableEq, Repr, Inhabited

namespace HttpMethod

/-- Every request method. -/
def all : List HttpMethod :=
  [get, head, post, put, patch, delete, options, trace]

/-- The method as it stands in a request line. -/
def name : HttpMethod → String
  | get => "GET"
  | head => "HEAD"
  | post => "POST"
  | put => "PUT"
  | patch => "PATCH"
  | delete => "DELETE"
  | options => "OPTIONS"
  | trace => "TRACE"

/-- The spelling compared with the names: blanks at the ends are dropped, and the letters
`a` to `z` are raised. -/
def spelling (token : String) : String :=
  String.ofList ((Text.trim token.toList).map Char.toUpper)

/-- Reads a token as a request method. -/
def ofToken? (token : String) : Option HttpMethod :=
  all.find? (fun method => method.name == spelling token)

/-- Reads a token that may be qualified, such as `RequestMethod.GET`, by its last segment. -/
def ofQualified? (token : String) : Option HttpMethod :=
  ofToken? (simpleName token)

/-- The methods a list of tokens names, each once, in the order in which they first occur.
Tokens that name none have no effect. -/
def ofTokens (tokens : List String) : List HttpMethod :=
  (tokens.filterMap ofQualified?).eraseDups

/-- The last segments of the tokens that name no method, in order. -/
def unknownTokens (tokens : List String) : List String :=
  (tokens.filter fun token => (ofQualified? token).isNone).map simpleName

end HttpMethod

end RouteSurvey
