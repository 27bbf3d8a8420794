import RouteSurvey.Mapping
import RouteSurvey.Source.Grammar.Level

/-! # Marking

Attributes of source texts as markers. Only the kinds a survey knows become markers. The
arguments of an attribute are expressions, each with a key or under `value`; if they
cannot be read, the marker has no values.
-/

namespace RouteSurvey.Source

mutual

/-- The strings an expression holds, in order. A path stands for its last segment, and
what is neither a literal nor a path nor a list of these holds none. -/
def Expr.leaves : Expr → List String
  | .literal (.text value) => [value]
  | .literal (.integer digits _) => [digits]
  | .literal (.flag value) => [if value then "true" else "false"]
  | .literal _ => []
  | .path segments => segments.getLast?.toList.map Ident.text
  | .array items => Expr.leavesOfAll items
  | .paren inner => inner.leaves
  | .other => []

/-- The strings of several expressions, in order. -/
def Expr.leavesOfAll : List Expr → List String
  | [] => []
  | expr :: rest => expr.leaves ++ Expr.leavesOfAll rest

end

/-- An argument of a marker. -/
structure MarkerArgument where
  key : String
  value : Expr

/-- The key of an argument that gives none. -/
def MarkerArgument.defaultKey : String := "value"

/-- The key and the literal an argument amounts to. -/
def MarkerArgument.entry (argument : MarkerArgument) : String × RouteSurvey.Literal :=
  (argument.key, .ofStrings argument.value.leaves)

/-- One argument: an expression, or a key and an expression. -/
def Grammar.markerArgument (g : Grammar) : Parser MarkerArgument := do
  if ← Parser.next fun tokens => Next.name tokens && Next.mark "=" (tokens.drop 1) then
    let key ← Parser.name
    Parser.mark "="
    return ⟨key.text, (← g.expr true).expr⟩
  else return ⟨MarkerArgument.defaultKey, (← g.expr true).expr⟩

/-- The marker of a kind with the given arguments; of several with one key the last counts. -/
def markerOf (kind : String) (arguments : List MarkerArgument) : Marker :=
  ⟨kind, Dictionary.ofList (arguments.map MarkerArgument.entry)⟩

/-- A kind of marker that a survey takes notice of. -/
def isKnownKind (kind : String) : Bool :=
  (MappingKind.ofName? kind).isSome ||
    [Marker.deprecated, Marker.requestParam, Marker.requestBody].contains kind

namespace Attribute

/-- The kind of marker an attribute stands for: the last segment of its path, if known. -/
def kind? (attr : Attribute) : Option String :=
  (attr.path.getLast?.map Ident.text).filter isKnownKind

/-- The arguments of an attribute, if they can be read. -/
def arguments? (attr : Attribute) : Option (List MarkerArgument) :=
  match attr.content with
  | .bare => some []
  | .value expr => some [⟨MarkerArgument.defaultKey, expr⟩]
  | .arguments tokens => Grammar.readAll? (fun g => Parser.list g.markerArgument) tokens

/-- The marker an attribute stands for. -/
def marker? (attr : Attribute) : Option Marker :=
  attr.kind?.map fun kind => markerOf kind (attr.arguments?.getD [])

/-- The kind of a marker whose arguments cannot be read. -/
def malformedKind? (attr : Attribute) : Option String :=
  if attr.arguments?.isNone then attr.kind? else none

/-- The attributes listed among the arguments of an attribute of the given name. -/
def listed (name : String) (attr : Attribute) : List Attribute :=
  match attr.content with
  | .arguments tokens =>
    if attr.isNamed name then
      (Grammar.readAll? (fun g => Parser.list (Grammar.attributeBody g)) tokens).getD []
    else []
  | _ => []

end Attribute

/-- The markers among attributes. -/
def markersOf (attributes : List Attribute) : List Marker :=
  attributes.filterMap Attribute.marker?

/-- The kinds of those markers among attributes whose arguments cannot be read. -/
def malformedKinds (attributes : List Attribute) : List String :=
  attributes.filterMap Attribute.malformedKind?

end RouteSurvey.Source
