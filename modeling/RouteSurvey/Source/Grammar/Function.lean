import RouteSurvey.Source.Grammar.Statement

/-! # Functions

The signatures and bodies of functions.
-/

namespace RouteSurvey.Source.Grammar

open RouteSurvey.Source.Parser

variable (g : Grammar)

/-- The value a method is called on. -/
def receiver : Parser Unit := do
  let isReference ← mark? "&"
  if isReference then lifetime?
  let _ ← word? "mut"
  word "self"
  if ← provided (!isReference) (mark? ":") then
    let _ ← g.type true

/-- What stands between the commas of a list of parameters. -/
inductive Parameter where
  | one (argument : Argument)
  /-- Any number of further values; nothing may follow -/
  | variadic

/-- A parameter behind its attributes. A type alone is allowed if it is a name with type
arguments. -/
def parameter (attributes : List Attribute) : Parser Parameter := do
  if ← mark? "..." then return .variadic
  else if (← attempt (receiver g)).isSome then return .one .receiver
  else if ← next fun tokens => Next.name tokens && Next.mark "<" (tokens.drop 1) then
    return .one (.typed attributes none (← g.type true).type)
  else
    let pattern ← g.pattern
    mark ":"
    if ← mark? "..." then return .variadic
    let name? := match pattern with
      | .name found => some found
      | _ => none
    return .one (.typed attributes name? (← g.type true).type)

/-- The parameters of a function. Only the first one may be a receiver. -/
def parametersAux : (fuel : Nat) → (first : Bool) → Parser (List Argument)
  | 0, _ => failure
  | fuel + 1, first => do
    if ← next Next.nothing then return []
    let attributes ← outerAttributes g
    match ← parameter g attributes with
    | .variadic =>
      if !(← next Next.nothing) then mark ","
      return []
    | .one found =>
      if found matches .receiver && !first then failure
      if ← next Next.nothing then return [found]
      mark ","
      return found :: (← parametersAux fuel false)

/-- The parameters of a function, in parentheses. -/
def parameters : Parser (List Argument) :=
  group .paren do parametersAux g ((← rest).length + 1) true

/-- What is said of a function before its body. -/
structure Signature where
  name : Ident
  arguments : List Argument
  output? : Option TypeExpr

/-- The words before the word for a function. -/
def functionWords (safe : Bool) : Parser Unit := do
  let _ ← word? "const"
  let _ ← word? "async"
  if !(← provided safe (word? "safe")) then
    let _ ← word? "unsafe"
  callingConvention

/-- A function begins here. -/
def beginsFunction (safe : Bool) : Parser Bool :=
  canRead do
    functionWords safe
    word "fn"

/-- The signature of a function. Items in its conditions come before those in its
parameters. -/
def signature (safe : Bool) : Parser Signature := do
  functionWords safe
  word "fn"
  let found ← name
  let _ ← generics g
  let ((arguments, output?), inner) ← gather do
    return (← parameters g, ← output g true)
  let _ ← conditions g
  noteAll inner
  return ⟨found, arguments, output?⟩

/-- The body of a function: its attributes, and its statements. -/
def functionBody : Parser (List Attribute) :=
  group .brace do
    let attributes ← innerAttributes g
    statements g
    return attributes

end RouteSurvey.Source.Grammar
