import RouteSurvey.Marker
import RouteSurvey.Http.Method

/-! # Mappings

A mapping marker declares part of a route. The generic kind spells out its request
methods and media types; a shorthand kind stands for one request method and carries
paths only. When a declaration carries several kinds, the first registered one counts.
-/

namespace RouteSurvey

/-- A mapping kind whose request method is part of its name. -/
inductive Shorthand where
  | get | post | put | delete | patch
deriving DecidableEq, Repr, Inhabited

/-- The request method a shorthand stands for. -/
def Shorthand.method : Shorthand → HttpMethod
  | get => .get
  | post => .post
  | put => .put
  | delete => .delete
  | patch => .patch

/-- A kind of marker that declares a mapping. -/
inductive MappingKind where
  | request
  | shorthand (verb : Shorthand)
deriving DecidableEq, Repr, Inhabited

namespace MappingKind

/-- Every mapping kind, in registration order. -/
def all : List MappingKind :=
  [request, shorthand .get, shorthand .post, shorthand .put, shorthand .delete, shorthand .patch]

/-- The kind as written on declarations. -/
def name : MappingKind → String
  | request => "request_mapping"
  | shorthand .get => "get_mapping"
  | shorthand .post => "post_mapping"
  | shorthand .put => "put_mapping"
  | shorthand .delete => "delete_mapping"
  | shorthand .patch => "patch_mapping"

/-- The mapping kind written in a given way. -/
def ofName? (name : String) : Option MappingKind :=
  all.find? (·.name == name)

/-- The request method a kind is fixed to. -/
def fixedMethod? : MappingKind → Option HttpMethod
  | request => none
  | shorthand verb => some verb.method

end MappingKind

/-- What a mapping marker declares. -/
inductive Mapping where
  | generic (paths : List String) (methods : List HttpMethod) (consumes produces : List String)
  | shorthand (verb : Shorthand) (paths : List String)
deriving DecidableEq, Repr, Inhabited

namespace Mapping

/-- The kind of marker the mapping was read from. -/
def kind : Mapping → MappingKind
  | generic .. => .request
  | shorthand verb _ => .shorthand verb

/-- The declared paths. -/
def paths : Mapping → List String
  | generic paths _ _ _ => paths
  | shorthand _ paths => paths

/-- The declared request methods; a shorthand has exactly its own. -/
def methods : Mapping → List HttpMethod
  | generic _ methods _ _ => methods
  | shorthand verb _ => [verb.method]

/-- The accepted media types; a shorthand declares none. -/
def consumes : Mapping → List String
  | generic _ _ consumes _ => consumes
  | shorthand .. => []

/-- The produced media types; a shorthand declares none. -/
def produces : Mapping → List String
  | generic _ _ _ produces => produces
  | shorthand .. => []

/-- The paths of a marker stand under `path`, or under `value` if `path` has none. -/
def pathsOf (marker : Marker) : List String :=
  marker.firstList ["path", "value"]

/-- Reads a marker as a mapping of a kind. -/
def ofMarker (kind : MappingKind) (marker : Marker) : Mapping :=
  match kind with
  | .request =>
    generic (pathsOf marker) (HttpMethod.ofTokens (marker.list "method"))
      (marker.list "consumes") (marker.list "produces")
  | .shorthand verb => shorthand verb (pathsOf marker)

/-- The method tokens of a marker that name no request method, by their last segment.
Only the generic kind has method tokens. -/
def skippedTokens (kind : MappingKind) (marker : Marker) : List String :=
  match kind with
  | .request => HttpMethod.unknownTokens (marker.list "method")
  | .shorthand _ => []

end Mapping

/-- The mapping kinds that occur among markers, in registration order. -/
def mappingKinds (markers : List Marker) : List MappingKind :=
  MappingKind.all.filter fun kind => markers.any (·.kind == kind.name)

/-- The marker that counts among several: the first one of the first kind present. -/
def selectedMarker? (markers : List Marker) : Option (MappingKind × Marker) := do
  let kind ← (mappingKinds markers).head?
  let marker ← Marker.ofKind? markers kind.name
  return (kind, marker)

/-- What the mapping markers of one declaration amount to. -/
structure Normalized where
  mapping? : Option Mapping
  candidates : List MappingKind
  /-- Method tokens that were left out because they name no request method -/
  skipped : List String
deriving DecidableEq, Repr

namespace Normalized

/-- Reads the mapping markers among those of a declaration. -/
def ofMarkers (markers : List Marker) : Normalized where
  mapping? := (selectedMarker? markers).map fun selected =>
    Mapping.ofMarker selected.1 selected.2
  candidates := mappingKinds markers
  skipped := (selectedMarker? markers).elim [] fun selected =>
    Mapping.skippedTokens selected.1 selected.2

/-- More than one mapping kind was found. -/
def isAmbiguous (normalized : Normalized) : Bool :=
  decide (1 < normalized.candidates.length)

end Normalized

end RouteSurvey
