import RouteSurvey.Source.Grammar.Generics

/-! # Types

Types and bounds.
-/

namespace RouteSurvey.Source.Grammar

open RouteSurvey.Source.Parser

variable (g : Grammar)

/-- A bound can begin here, behind a plus sign. -/
def Next.bound (tokens : List Token) : Bool :=
  Next.anyWord tokens || Next.mark "::" tokens || Next.mark "?" tokens ||
    Next.lifetime tokens || Next.group .paren tokens || Next.mark "~" tokens

/-- A bound by a trait. -/
def traitBound (constants : Bool) : Parser Unit := do
  let isBoundBefore ← binder? g
  if ← mark? "~" then
    word "const"
    if !constants then failure
  else if ← word? "const" then
    if !constants then failure
  let isMaybe ← mark? "?"
  let isBoundBehind ← if isMaybe && !isBoundBefore then binder? g else pure false
  callablePath g
  if isMaybe && (isBoundBefore || isBoundBehind) then failure

/-- The parameters a type may capture. -/
def captures : Parser Unit := do
  word "use"
  mark "<"
  let _ ← separated (Next.mark ">") "," do
    expect fun tokens => Next.lifetime tokens || Next.name tokens || Next.word "Self" tokens
    skip 1
  mark ">"

/-- A bound. -/
def boundBody (mayCapture constants : Bool) : Parser Bound := do
  if ← next Next.lifetime then
    skip 1
    return .lifetime
  else if ← next (Next.word "use") then
    captures
    if mayCapture then return .capture else failure
  else
    if ← next (Next.group .paren) then group .paren (traitBound g constants)
    else traitBound g constants
    return .type

/-- Bounds joined by plus signs, if those are allowed. A plus sign may stand at the end. -/
def boundsAux (plus mayCapture constants : Bool) : (fuel : Nat) → Parser (List Bound)
  | 0 => failure
  | fuel + 1 => do
    let first ← g.bound mayCapture constants
    if !plus then return [first]
    else if ← mark? "+" then
      if ← next Next.bound then
        return first :: (← boundsAux plus mayCapture constants fuel)
      else return [first]
    else return [first]

/-- Bounds of which at least one is not just a lifetime or a capture. -/
def typeBounds (plus mayCapture constants : Bool) : Parser (List Bound) := do
  let found ← boundsAux g plus mayCapture constants ((← rest).length + 1)
  if found.contains .type then return found else failure

/-- Further bounds, each behind a plus sign. -/
def moreBounds : Parser (List Bound) :=
  manyWhile (Next.mark "+") do
    mark "+"
    g.bound false false

/-- How a function is called, if that is said. -/
def callingConvention : Parser Unit := do
  if ← word? "extern" then
    if ← next Next.text then skip 1

/-- Something with a name and a colon may stand here. -/
def Next.label (tokens : List Token) : Bool :=
  (Next.name tokens || Next.word "_" tokens) && Next.mark ":" (tokens.drop 1)

/-- A parameter of a function type. The first one may be a receiver. -/
def functionTypeParameter (first : Bool) : Parser Unit := do
  let _ ← outerAttributes g
  let isMutReceiver (tokens : List Token) : Bool :=
    first && Next.word "mut" tokens && Next.word "self" (tokens.drop 1)
  let hasMut ← next isMutReceiver
  if hasMut then skip 1
  let named (tokens : List Token) : Bool :=
    (Next.name tokens || Next.word "_" tokens || (first && Next.word "self" tokens)) &&
      Next.mark ":" (tokens.drop 1) && !Next.mark "::" (tokens.drop 1)
  let hasName ← next named
  let isReceiver ← next fun tokens => named tokens && Next.word "self" tokens
  if hasName then skip 2
  if ← next fun tokens => !isReceiver && isMutReceiver tokens then skip 2
  else if hasMut && !hasName then word "self"
  else
    let _ ← g.type true

/-- The parameters of a function type, of which the last may stand for any number. -/
def functionTypeParameters : (fuel : Nat) → (first : Bool) → Parser Unit
  | 0, _ => failure
  | fuel + 1, first => do
    if ← next Next.nothing then return
    let _ ← outerAttributes g
    let isVariadic (tokens : List Token) : Bool :=
      Next.mark "..." tokens || (Next.label tokens && Next.mark "..." (tokens.drop 2))
    if ← next isVariadic then
      if ← next Next.label then skip 2
      mark "..."
      let _ ← mark? ","
    else
      functionTypeParameter g first
      if ← next Next.nothing then return
      mark ","
      functionTypeParameters fuel false

/-- A function type. -/
def functionType : Parser TypeForm := do
  let _ ← word? "unsafe"
  callingConvention
  word "fn"
  group .paren do functionTypeParameters g ((← rest).length + 1) true
  let _ ← output g false
  return .plain .other

/-- A type in parentheses, and the bounds that may follow it. -/
def parenType (plus : Bool) : Parser TypeForm := do
  let (_, inner) ← anyGroup
  if Next.nothing inner then return .plain (.tuple [])
  else if Next.lifetime inner then
    let _ ← wholly inner (typeBounds g true false false)
    return .plain (.paren .other)
  else if Next.mark "?" inner then
    wholly inner (traitBound g false)
    return .bounds (← moreBounds g).isEmpty
  else
    let ((first, isTuple), left) ← within inner do
      let first ← g.type true
      if ← mark? "," then
        let others ← list (g.type true)
        return (TypeForm.plain (.tuple (first.type :: others.map TypeForm.type)), true)
      else return (first, false)
    if !left.isEmpty then failure
    let isBound := match first with
      | .path path => !path.isQualified
      | .bounds isOne => isOne
      | .plain _ => false
    if isTuple then return first
    else if plus && isBound && (← next (Next.mark "+")) then
      let _ ← moreBounds g
      return .bounds false
    else return .plain (.paren first.type)

/-- A type that begins with a path. -/
def pathType (plus isBound : Bool) : Parser TypeForm := do
  let path ← qualifiedPath g false
  let tokens ← rest
  if path.isQualified then return .path path
  else if Next.mark "!" tokens && !Next.mark "!=" tokens && path.isPlain then
    skip 1
    let _ ← anyGroup
    return .plain .other
  else if isBound || (plus && Next.mark "+" tokens) then
    if ← provided plus (mark? "+") then
      if ← next Next.bound then
        let _ ← boundsAux g true false false ((← rest).length + 1)
      return .bounds false
    else return .bounds true
  else return .path path

/-- A path can begin here. -/
def Next.pathStart (tokens : List Token) : Bool :=
  Next.pathWord tokens || Next.mark "::" tokens || Next.mark "<" tokens

/-- A type. -/
def typeBody (plus : Bool) : Parser TypeForm := do
  let isFunction (tokens : List Token) : Bool := Next.wordIn ["fn", "unsafe", "extern"] tokens
  let isBound ← binder? g
  if isBound then expect fun tokens => isFunction tokens || Next.pathWord tokens
  if ← next (Next.group .paren) then parenType g plus
  else if ← next isFunction then functionType g
  else if ← next Next.pathStart then pathType g plus isBound
  else if ← word? "dyn" then
    let _ ← mark? "*"
    let _ ← typeBounds g plus false false
    return .plain .other
  else if ← next (Next.group .bracket) then
    group .bracket do
      let _ ← g.type true
      if ← mark? ";" then
        let _ ← g.expr true
    return .plain .other
  else if ← mark? "*" then
    expect (Next.wordIn ["const", "mut"])
    skip 1
    let _ ← g.type false
    return .plain .other
  else if ← mark? "&" then
    lifetime?
    let _ ← word? "mut"
    return .plain (.reference (← g.type false).type)
  else if ← next fun tokens => Next.mark "!" tokens && !Next.mark "=" tokens then
    skip 1
    return .plain .other
  else if ← word? "impl" then
    let _ ← typeBounds g plus true true
    return .plain .other
  else if ← word? "_" then return .plain .hole
  else
    expect Next.lifetime
    return .bounds ((← typeBounds g true false false).length == 1)

end RouteSurvey.Source.Grammar
