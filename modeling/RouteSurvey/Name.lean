/-! # Qualified names

A name may carry a path in front of it, written with `::` or with `.`. The simple name
is what stands after the last of these separators.
-/

namespace RouteSurvey.Name

/-- Some `::` or `.` occurs. -/
def hasSeparator : List Char → Bool
  | [] => false
  | '.' :: _ => true
  | ':' :: ':' :: _ => true
  | _ :: rest => hasSeparator rest

/-- What stands after the separator that ends last; everything if there is none. -/
def afterSeparators : List Char → List Char
  | [] => []
  | c :: rest =>
    if hasSeparator rest then afterSeparators rest
    else if c = '.' then rest
    else match c, rest with
      | ':', ':' :: tail => tail
      | _, _ => c :: rest

/-- The last character, or the last two, form a separator. -/
def endsInSeparator (name : List Char) : Bool :=
  match name.reverse with
  | '.' :: _ => true
  | ':' :: ':' :: _ => true
  | _ => false

end Name

/-- Whether a name carries a path. -/
def isQualified (name : String) : Bool :=
  Name.hasSeparator name.toList

/-- The part of a name after its last `::` or `.`. -/
def simpleName (name : String) : String :=
  String.ofList (Name.afterSeparators name.toList)

end RouteSurvey
