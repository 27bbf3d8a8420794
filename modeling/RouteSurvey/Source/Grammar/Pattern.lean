import RouteSurvey.Source.Grammar.Type

/-! # Patterns

What stands before the type of a parameter, between `let` and a value, and in the arms of
a match.
-/

namespace RouteSurvey.Source.Grammar

open RouteSurvey.Source.Parser

variable (g : Grammar)

/-- Alternatives go on here. -/
def Next.alternative (tokens : List Token) : Bool :=
  Next.mark "|" tokens && !Next.mark "||" tokens && !Next.mark "|=" tokens

/-- A pattern that may have alternatives, the first of which may have a bar before it. -/
def alternatives : Parser Pattern := do
  let hasBar ← mark? "|"
  let first ← g.pattern
  let more ← manyWhile Next.alternative do
    mark "|"
    g.pattern
  return if hasBar || !more.isEmpty then .other else first

/-- An end of a range, if there is one; tells whether there is. -/
def rangeBound : Parser Bool := do
  let isLeftOut (tokens : List Token) : Bool :=
    Next.nothing tokens || Next.mark "|" tokens || Next.mark "=" tokens ||
      (Next.mark ":" tokens && !Next.mark "::" tokens) || Next.mark "," tokens ||
      Next.mark ";" tokens || Next.word "if" tokens
  if ← next isLeftOut then return false
  else if ← next Next.literal then
    let _ ← literal
    return true
  else if ← next Next.pathStart then
    let _ ← qualifiedPath g true
    return true
  else
    word "const"
    g.block true
    return true

/-- The dots of a range in a pattern; tells whether its last value is included. -/
def rangeDots : Parser Bool := do
  if ← mark? "..=" then return true
  else if ← mark? "..." then return true
  else
    mark ".."
    return false

/-- A range behind its start. -/
def rangeAfter : Parser Pattern := do
  let isClosed ← rangeDots
  let hasEnd ← rangeBound g
  if isClosed && !hasEnd then failure
  return if hasEnd then .other else .openRange

/-- A range without start, or the rest of a sequence. -/
def rangeWithoutStart : Parser Pattern := do
  let isClosed ← mark? "..="
  if !isClosed then mark ".."
  if ← rangeBound g then return .openRange
  else if isClosed then failure
  else return .other

/-- The position of a component: a whole number without suffix. -/
def position : Parser Unit := do
  match ← rest with
  | .literal (.integer digits "") :: _ =>
    let value ← digits.toNat?
    if Nat.pow 2 32 ≤ value then failure else skip 1
  | _ => failure

/-- The name or the position of a component; tells whether it is a name. -/
def member : Parser Bool := do
  if ← next Next.name then
    skip 1
    return true
  else
    position
    return false

/-- A field of a pattern for a struct. -/
def fieldPattern : Parser Unit := do
  let isBoxed ← word? "box"
  let isReference ← word? "ref"
  let isMutable ← word? "mut"
  if isBoxed || isReference || isMutable then
    let _ ← name
  else
    let isName ← member
    if !isName || (← next (Next.mark ":")) then
      mark ":"
      let _ ← alternatives g

/-- The fields of a pattern for a struct; two dots stand for all others. -/
def fieldPatterns : (fuel : Nat) → Parser Unit
  | 0 => failure
  | fuel + 1 => do
    if ← next Next.nothing then return
    let _ ← outerAttributes g
    if ← mark? ".." then return
    fieldPattern g
    if ← next Next.nothing then return
    mark ","
    fieldPatterns fuel

/-- A pattern that begins with a path. -/
def pathPattern : Parser Pattern := do
  let path ← qualifiedPath g true
  let tokens ← rest
  if !path.isQualified && Next.mark "!" tokens && !Next.mark "!=" tokens && path.isPlain then
    skip 1
    let _ ← anyGroup
    return .other
  else if Next.group .brace tokens then
    group .brace do fieldPatterns g ((← rest).length + 1)
    return .other
  else if Next.group .paren tokens then
    let _ ← group .paren (list (alternatives g))
    return .other
  else if Next.mark ".." tokens then rangeAfter g
  else return .other

/-- A pattern that is a name, which may be bound to a part with a pattern of its own. -/
def namePattern : Parser Pattern := do
  let _ ← word? "ref"
  let _ ← word? "mut"
  let found ← if ← next (Next.word "self") then anyWord else name
  if ← mark? "@" then
    let _ ← g.pattern
  return .name found

/-- An item of a list pattern, which is no range without one of its ends. -/
def listedPattern : Parser Unit := do
  match ← alternatives g with
  | .openRange => failure
  | _ => return

/-- A pattern without alternatives. -/
def patternBody : Parser Pattern := do
  let isPath (tokens : List Token) : Bool :=
    let behind := tokens.drop 1
    (Next.name tokens && (Next.mark "::" behind || Next.mark "!" behind ||
        Next.group .brace behind || Next.group .paren behind || Next.mark ".." behind)) ||
      (Next.word "self" tokens && Next.mark "::" behind) ||
      Next.mark "::" tokens || Next.mark "<" tokens ||
      Next.wordIn ["Self", "super", "crate"] tokens
  let isValue (tokens : List Token) : Bool :=
    Next.mark "-" tokens || Next.literal tokens || Next.word "const" tokens
  let isName (tokens : List Token) : Bool :=
    Next.wordIn ["ref", "mut", "self"] tokens || Next.name tokens
  if ← next isPath then pathPattern g
  else if ← word? "_" then return .other
  else if ← word? "box" then
    let _ ← g.pattern
    return .other
  else if ← next isValue then
    if !(← rangeBound g) then failure
    if ← next (Next.mark "..") then rangeAfter g else return .other
  else if ← next isName then namePattern g
  else if ← mark? "&" then
    let _ ← word? "mut"
    let _ ← g.pattern
    return .other
  else if ← next (Next.group .paren) then
    let _ ← group .paren (list (alternatives g))
    return .other
  else if ← next (Next.group .bracket) then
    let _ ← group .bracket (list (listedPattern g))
    return .other
  else
    refuse (Next.mark "...")
    expect (Next.mark "..")
    rangeWithoutStart g

end RouteSurvey.Source.Grammar
