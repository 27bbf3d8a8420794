import RouteSurvey.Name

/-! # Type references

A type as written where it is used: a name and its type arguments. A reference may be
shorter than the name of the declaration it means, so `TypeRef.names` says which
declarations it can stand for.
-/

namespace RouteSurvey

/-- A name together with type arguments, in order. -/
inductive TypeRef where
  | mk (name : String) (args : List TypeRef)
deriving Repr, BEq, Inhabited

namespace TypeRef

/-- The name without type arguments. -/
def name : TypeRef → String
  | mk name _ => name

/-- The type arguments. -/
def args : TypeRef → List TypeRef
  | mk _ args => args

/-- A reference without type arguments. -/
def plain (name : String) : TypeRef :=
  mk name []

mutual

/-- The written form: the name, then the arguments between angle brackets if there are any. -/
def chars : TypeRef → List Char
  | mk name [] => name.toList
  | mk name (arg :: rest) => name.toList ++ '<' :: (chars arg ++ restChars rest ++ ['>'])

/-- The arguments after the first one, each led in by a comma and a blank. -/
def restChars : List TypeRef → List Char
  | [] => []
  | arg :: rest => ',' :: ' ' :: (chars arg ++ restChars rest)

end

/-- The written form as a string. -/
def display (type : TypeRef) : String :=
  String.ofList type.chars

/-- The last segment of the name. -/
def simpleName (type : TypeRef) : String :=
  RouteSurvey.simpleName type.name

/-- `short` is the end of `long`, and a separator stands right before it. -/
def isTrailingPath (short long : List Char) : Bool :=
  short.isSuffixOf long && Name.endsInSeparator (long.take (long.length - short.length))

/-- Whether the reference can stand for a declaration called `candidate`: it is that name,
or it is unqualified and is the simple name, or it is a trailing run of path segments. -/
def names (type : TypeRef) (candidate : String) : Bool :=
  type.name == candidate ||
    if isQualified type.name then isTrailingPath type.name.toList candidate.toList
    else type.name == RouteSurvey.simpleName candidate

end TypeRef

end RouteSurvey
