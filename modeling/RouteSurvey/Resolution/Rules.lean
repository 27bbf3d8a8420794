import RouteSurvey.Http.Method
import RouteSurvey.Text.Whitespace

/-! # Rules of inheritance between levels

A route attribute of a declaration is its own value combined with the value resolved for
the declaration around it. Paths are joined, and any other attribute is taken from the
nearer declaration that has one.
-/

namespace RouteSurvey.Resolution

/-- A parent path without its last slashes, one slash, and a fragment without its first
slashes. -/
def joinChars (parent fragment : List Char) : List Char :=
  Text.dropTrailing (· == '/') parent ++ '/' :: fragment.dropWhile (· == '/')

/-- Joins a path fragment onto a parent path with exactly one slash between them. -/
def joinPaths (parent fragment : String) : String :=
  String.ofList (joinChars parent.toList fragment.toList)

/-- Every own fragment joined onto every parent path; the one that is there if the other
is missing. -/
def inheritPaths (own : List String) (parent : Option (List String)) : Option (List String) :=
  match own, parent with
  | [], parent => parent
  | own, none => some own
  | own, some parents => some (parents.flatMap fun path => own.map (joinPaths path))

/-- Own request methods, or else those of the parent. -/
def inheritMethods (own : List HttpMethod) (parent : Option (List HttpMethod)) :
    Option (List HttpMethod) :=
  if own.isEmpty then parent else some own

/-- Own media types, or else those of the parent. -/
def inheritMediaTypes (own parent : List String) : List String :=
  if own.isEmpty then parent else own

end RouteSurvey.Resolution
