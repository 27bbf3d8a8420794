import RouteSurvey.Source.Grammar

/-! # Paths

Paths, with or without type arguments.
-/

namespace RouteSurvey.Source.Grammar

open RouteSurvey.Source.Parser

/-- The words that may stand in a path although they are keywords. -/
def pathWords : List String :=
  ["super", "self", "Self", "crate"]

/-- A segment of a path can begin here. -/
def Next.pathWord (tokens : List Token) : Bool :=
  Next.name tokens || Next.wordIn pathWords tokens

/-- The word of a segment without arguments. -/
def pathWord : Parser Ident := do
  expect Next.pathWord
  anyWord

/-- A path without arguments. -/
def plainPath : Parser PathForm := do
  let isAbsolute ← mark? "::"
  let first ← pathWord
  let more ← manyWhile (Next.mark "::") do
    mark "::"
    pathWord
  return { isAbsolute := isAbsolute, segments := (first :: more).map ({ name := · }) }

variable (g : Grammar)

/-- A constant argument: a literal, a name, or a block. -/
def constArgument : Parser Unit := do
  if ← next Next.literal then
    let _ ← literal
  else if ← next Next.name then skip 1
  else g.block true

/-- A generic argument; the type if it is one. -/
def genericArgument : Parser (Option TypeExpr) := do
  let isConst (tokens : List Token) : Bool := Next.literal tokens || Next.group .brace tokens
  if ← next fun tokens => Next.lifetime tokens && !Next.mark "+" (tokens.drop 1) then
    skip 1
    return none
  else if ← next isConst then
    constArgument g
    return none
  else
    let found ← g.type true
    match found with
    | .path path =>
      if !path.isSingle then return some found.type
      else if ← mark? "=" then
        if ← next isConst then constArgument g
        else
          let _ ← g.type true
        return none
      else if ← mark? ":" then
        let isEnd (tokens : List Token) : Bool := Next.mark "," tokens || Next.mark ">" tokens
        let _ ← joined isEnd "+" (g.bound false true)
        return none
      else return some found.type
    | _ => return some found.type

/-- Generic arguments in angle brackets. -/
def angleArguments : Parser (List TypeExpr) := do
  let _ ← mark? "::"
  mark "<"
  let found ← separated (Next.mark ">") "," (genericArgument g)
  mark ">"
  return found.filterMap id

/-- A segment of a path. In expressions arguments stand behind a separator. -/
def segment (inExpr : Bool) : Parser Segment := do
  if ← next (Next.wordIn ["super", "self", "crate", "try"]) then return { name := ← anyWord }
  else
    let name ← if ← next (Next.word "Self") then anyWord else Parser.name
    let tokens ← rest
    let begins := !inExpr && Next.mark "<" tokens && !Next.mark "<=" tokens
    if begins || (Next.mark "::" tokens && Next.mark "<" (tokens.drop 2)) then
      return { name := name, args? := ← angleArguments g }
    else return { name := name }

/-- A path. A separator before a parenthesis does not belong to it. -/
def path (inExpr : Bool) : Parser PathForm := do
  let isAbsolute ← mark? "::"
  let first ← segment g inExpr
  let goesOn (tokens : List Token) : Bool :=
    Next.mark "::" tokens && !Next.group .paren (tokens.drop 2)
  let more ← manyWhile goesOn do
    mark "::"
    segment g inExpr
  return { isAbsolute := isAbsolute, segments := first :: more }

/-- A path that may begin at a type in angle brackets. -/
def qualifiedPath (inExpr : Bool) : Parser PathForm := do
  if ← mark? "<" then
    let _ ← g.type true
    let front ← if ← word? "as" then some <$> path g false else pure none
    mark ">"
    mark "::"
    let first ← segment g inExpr
    let more ← manyWhile (Next.mark "::") do
      mark "::"
      segment g inExpr
    return {
      isQualified := true
      isAbsolute := front.elim true (·.isAbsolute)
      segments := front.elim [] (·.segments) ++ first :: more }
  else path g inExpr

/-- The type behind an arrow, if there is one. -/
def output (plus : Bool) : Parser (Option TypeExpr) := do
  if ← mark? "->" then return some (← g.type plus).type else return none

/-- A path that may have arguments in parentheses, and then a type behind an arrow. -/
def callablePath : Parser Unit := do
  let found ← path g false
  let tokens ← rest
  let begins := Next.group .paren tokens ||
    (Next.mark "::" tokens && Next.group .paren (tokens.drop 2))
  if found.endsPlain && begins then
    let _ ← mark? "::"
    let _ ← group .paren (list (g.type true))
    let _ ← output g false

end RouteSurvey.Source.Grammar
