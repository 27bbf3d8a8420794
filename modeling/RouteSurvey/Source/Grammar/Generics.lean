import RouteSurvey.Source.Grammar.Attribute

/-! # Generics

Parameters in angle brackets, and the conditions on them.
-/

namespace RouteSurvey.Source.Grammar

open RouteSurvey.Source.Parser

variable (g : Grammar)

/-- Lifetimes that are bound for a type or a function. -/
def binder : Parser Unit := do
  word "for"
  mark "<"
  let _ ← separated (Next.mark ">") "," do
    let _ ← outerAttributes g
    lifetime
  mark ">"

/-- Bound lifetimes, if there are any; tells whether there are. -/
def binder? : Parser Bool := do
  if ← next (Next.word "for") then
    binder g
    return true
  else return false

/-- A parameter in angle brackets. -/
def genericParameter : Parser Unit := do
  let _ ← outerAttributes g
  let isEnd (tokens : List Token) : Bool := Next.mark "," tokens || Next.mark ">" tokens
  if ← next Next.lifetime then
    skip 1
    if ← mark? ":" then
      let _ ← joined isEnd "+" lifetime
  else if ← next Next.name then
    skip 1
    if ← mark? ":" then
      let _ ← joined (fun tokens => isEnd tokens || Next.mark "=" tokens) "+" (g.bound false true)
    if ← mark? "=" then
      let _ ← g.type true
  else if ← word? "const" then
    let _ ← name
    mark ":"
    let _ ← g.type true
    if ← mark? "=" then constArgument g
  else word "_"

/-- Parameters in angle brackets, if there are any; tells whether there are. -/
def generics : Parser Bool := do
  if ← mark? "<" then
    let _ ← separated (Next.mark ">") "," (genericParameter g)
    mark ">"
    return true
  else return false

/-- A list of conditions ends here. -/
def Next.conditionEnd (tokens : List Token) : Bool :=
  Next.nothing tokens || Next.group .brace tokens || Next.mark "," tokens ||
    Next.mark ";" tokens || (Next.mark ":" tokens && !Next.mark "::" tokens) ||
    Next.mark "=" tokens

/-- A condition on a lifetime or on a type. -/
def condition : Parser Unit := do
  if ← next fun tokens => Next.lifetime tokens && Next.mark ":" (tokens.drop 1) then
    skip 2
    let isEnd (tokens : List Token) : Bool :=
      Next.conditionEnd tokens || Next.mark ":" tokens
    let _ ← joined isEnd "+" lifetime
  else
    let _ ← binder? g
    let _ ← g.type true
    mark ":"
    let _ ← joined Next.conditionEnd "+" (g.bound false true)

/-- Conditions on parameters, if there are any; tells whether there are. -/
def conditions : Parser Bool := do
  if ← word? "where" then
    let _ ← joined Next.conditionEnd "," (condition g)
    return true
  else return false

end RouteSurvey.Source.Grammar
