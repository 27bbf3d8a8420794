import RouteSurvey.Dictionary

/-! # Markers

Named sets of literal values attached to declarations. A value is one string or a list
of strings; readers see both as a list, without the empty strings.
-/

namespace RouteSurvey

/-- A literal value as it was written. -/
inductive Literal where
  | text (s : String)
  | list (items : List String)
deriving DecidableEq, Repr, Inhabited

namespace Literal

/-- The strings of a value that are not empty, in order. -/
def strings : Literal → List String
  | text s => [s].filter (· ≠ "")
  | list items => items.filter (· ≠ "")

/-- One string stands for itself, any other number of strings for a list. -/
def ofStrings : List String → Literal
  | [s] => text s
  | items => list items

end Literal

/-- A named set of literal values. -/
structure Marker where
  kind : String
  values : Dictionary Literal := Dictionary.empty
deriving Inhabited

namespace Marker

/-- The kind that marks a declaration as deprecated. -/
def deprecated : String := "deprecated"

/-- The kind that marks a query or form parameter. -/
def requestParam : String := "request_param"

/-- The kind that marks the parameter holding the request body. -/
def requestBody : String := "request_body"

/-- The strings stored under a key; none if the key is absent. -/
def list (marker : Marker) (key : String) : List String :=
  (marker.values.get? key).elim [] Literal.strings

/-- The strings of the first key that has any. -/
def firstList (marker : Marker) (keys : List String) : List String :=
  ((keys.map marker.list).find? (! ·.isEmpty)).getD []

/-- The first string stored under a key. -/
def string? (marker : Marker) (key : String) : Option String :=
  (marker.list key).head?

/-- The first marker of a kind. -/
def ofKind? (markers : List Marker) (kind : String) : Option Marker :=
  markers.find? (·.kind == kind)

end Marker

end RouteSurvey
