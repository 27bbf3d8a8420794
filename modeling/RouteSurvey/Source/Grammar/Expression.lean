import RouteSurvey.Source.Grammar.Operation
import RouteSurvey.Source.Grammar.Pattern
import RouteSurvey.Source.Lexer.Number

/-! # Expressions

The operands of expressions, and expressions as statements.
-/

namespace RouteSurvey.Source.Grammar

open RouteSurvey.Source.Parser

variable (g : Grammar)

/-- An expression can begin here, behind a word that needs none. -/
def Next.expr (tokens : List Token) : Bool :=
  Next.anyWord tokens || Next.group .paren tokens || Next.group .bracket tokens ||
    Next.group .brace tokens || Next.literal tokens ||
    (Next.mark "!" tokens && !Next.mark "!=" tokens) ||
    (Next.mark "-" tokens && !Next.mark "-=" tokens && !Next.mark "->" tokens) ||
    (Next.mark "*" tokens && !Next.mark "*=" tokens) ||
    (Next.mark "|" tokens && !Next.mark "|=" tokens) ||
    (Next.mark "&" tokens && !Next.mark "&=" tokens) || Next.mark ".." tokens ||
    (Next.mark "<" tokens && !Next.mark "<=" tokens && !Next.mark "<<=" tokens) ||
    Next.mark "::" tokens || Next.lifetime tokens || Next.mark "#" tokens

/-- The arguments of a call. -/
def arguments : Parser Unit := do
  let _ ← group .paren (list (anyExpr g))

/-- The positions that a number with a point stands for when it follows a point. A point at
its end is not used up; then the result is true. -/
def positionsOf? (written : String) : Option Bool :=
  let cs := written.toList
  let endsInPoint := cs.getLast? == some '.'
  let parts := (if endsInPoint then cs.dropLast else cs).splitOn '.'
  if parts.all fun part => (Lexer.position? part).isSome then some endsInPoint else none

/-- Positions written as a number with a point; tells whether a component has to follow. -/
def positions : Parser Bool := do
  match ← rest with
  | .literal (.float written) :: _ =>
    let goesOn ← positionsOf? written
    skip 1
    return goesOn
  | _ => return true

/-- What follows a point: a component, a method with its arguments, or a wait. -/
def afterPoint : Parser Unit := do
  if ← positions then
    if ← word? "await" then return
    let isName ← member
    let hasTypes ← next fun tokens => isName && Next.mark "::" tokens
    if hasTypes then
      let _ ← angleArguments g
    if isName && (hasTypes || (← next (Next.group .paren))) then arguments g

/-- Calls, components and other things that stand behind an expression. -/
def trailersFrom : (fuel : Nat) → ExprForm → Parser ExprForm
  | 0, _ => failure
  | fuel + 1, found => do
    let tokens ← rest
    let isRange := found matches .range
    if Next.group .paren tokens then
      arguments g
      trailersFrom fuel .other
    else if Next.mark "." tokens && !Next.mark ".." tokens && !isRange then
      skip 1
      afterPoint g
      trailersFrom fuel .other
    else if Next.group .bracket tokens then
      let _ ← group .bracket (anyExpr g)
      trailersFrom fuel .other
    else if Next.mark "?" tokens && !isRange then
      skip 1
      trailersFrom fuel .other
    else return found

/-- An expression with what stands behind it. -/
def trailers (found : ExprForm) : Parser ExprForm := do
  trailersFrom g ((← rest).length + 1) found

/-- A field of a struct expression. -/
def fieldValue : Parser Unit := do
  let _ ← outerAttributes g
  let isName ← member
  if !isName || (← next (Next.mark ":")) then
    mark ":"
    let _ ← g.expr true

/-- The fields of a struct expression; behind two dots stands where the others come from. -/
def fieldValues : (fuel : Nat) → Parser Unit
  | 0 => failure
  | fuel + 1 => do
    if ← next Next.nothing then return
    if ← mark? ".." then
      if !(← next Next.nothing) then
        let _ ← g.expr true
    else
      fieldValue g
      if ← next Next.nothing then return
      mark ","
      fieldValues fuel

/-- An expression that begins with a path: the path itself, an invocation, or a struct. -/
def pathExpr (braces : Bool) : Parser ExprForm := do
  let path ← qualifiedPath g true
  let tokens ← rest
  if !path.isQualified && Next.mark "!" tokens && !Next.mark "!=" tokens && path.isPlain then
    skip 1
    let (delimiter, _) ← anyGroup
    return .invocation (delimiter == .brace)
  else if braces && Next.group .brace tokens then
    group .brace do fieldValues g ((← rest).length + 1)
    return .other
  else return .plain (.path path.names)

/-- An expression in parentheses, or a tuple. -/
def parenExpr : Parser ExprForm :=
  group .paren do
    if ← next Next.nothing then return .other
    let first ← anyExpr g
    if ← next Next.nothing then return .plain (.paren first)
    mark ","
    let _ ← list (anyExpr g)
    return .other

/-- A list of values, or one value many times. -/
def bracketExpr : Parser ExprForm :=
  group .bracket do
    if ← next Next.nothing then return .plain (.array [])
    let first ← anyExpr g
    if ← next Next.nothing then return .plain (.array [first])
    if ← mark? "," then return .plain (.array (first :: (← list (anyExpr g))))
    else
      mark ";"
      let _ ← g.expr true
      return .other

/-- A parameter of a closure. -/
def closureParameter : Parser Unit := do
  let _ ← outerAttributes g
  let _ ← g.pattern
  if ← mark? ":" then
    let _ ← g.type true

/-- A closure. With a type behind an arrow its body is a block. -/
def closure (braces : Bool) : Parser ExprForm := do
  let _ ← binder? g
  let _ ← word? "const"
  let _ ← word? "static"
  let _ ← word? "async"
  let _ ← word? "move"
  mark "|"
  let _ ← separated (Next.mark "|") "," (closureParameter g)
  mark "|"
  if ← mark? "->" then
    let _ ← g.type true
    g.block false
  else
    let _ ← g.expr braces
  return .other

/-- An expression behind a word, if one stands there. -/
def optionalExpr (braces isBraceEnd : Bool) : Parser Unit := do
  if ← next fun tokens => Next.expr tokens && !(isBraceEnd && Next.group .brace tokens) then
    let _ ← g.expr braces

/-- What follows the word that leaves a loop: a label, and a value. -/
def breakValue (braces : Bool) : Parser Unit := do
  refuse fun tokens => Next.lifetime tokens && Next.mark ":" (tokens.drop 1)
  lifetime?
  optionalExpr g braces (!braces)

/-- A condition and its block, and the blocks for other cases. -/
def ifChain : (fuel : Nat) → Parser Unit
  | 0 => failure
  | fuel + 1 => do
    word "if"
    let _ ← g.expr false
    g.block false
    if ← word? "else" then
      if ← next (Next.word "if") then ifChain fuel else g.block false

/-- An arm of a match. A comma has to follow unless the arm is the last one or its value is
a block. -/
def arm : Parser Unit := do
  let _ ← outerAttributes g
  let _ ← alternatives g
  if ← word? "if" then
    let _ ← g.expr true
  mark "=>"
  let found ← g.standalone
  if found matches .block || (← next Next.nothing) then
    let _ ← mark? ","
  else mark ","

/-- A loop, or a block, behind its label if it has one. -/
def loopOrBlock : Parser Unit := do
  if ← word? "while" then
    let _ ← g.expr false
    g.block true
  else if ← word? "for" then
    let _ ← alternatives g
    word "in"
    let _ ← g.expr false
    g.block true
  else
    let _ ← word? "loop"
    g.block true

/-- The condition and pattern of a binding that may fail. -/
def letExpr (braces : Bool) : Parser Unit := do
  let _ ← alternatives g
  mark "="
  let _ ← g.operations braces Precedence.compare (← g.unary braces)

/-- A closure begins here. -/
def Next.closure (tokens : List Token) : Bool :=
  let second := tokens.drop 1
  let third := tokens.drop 2
  Next.mark "|" tokens || Next.wordIn ["move", "static"] tokens ||
    (Next.word "for" tokens && Next.mark "<" second &&
      (Next.lifetime third || Next.mark ">" third)) ||
    (Next.word "const" tokens && !Next.group .brace second) ||
    (Next.word "async" tokens && (Next.mark "|" second || Next.word "move" second))

/-- An expression that begins with one of the words that lead to a value elsewhere. -/
def wordExpr (braces : Bool) : Parser ExprForm := do
  if ← word? "break" then breakValue g braces
  else if ← word? "continue" then lifetime?
  else if ← word? "return" then optionalExpr g true false
  else if ← word? "yield" then optionalExpr g true false
  else if ← word? "become" then
    let _ ← ignoringItems (g.expr true)
  else if ← word? "let" then letExpr g braces
  else word "_"
  return .other

/-- An expression that ends in braces. -/
def blockExpr : Parser ExprForm := do
  if ← next (Next.word "if") then ifChain g ((← rest).length + 1)
  else if ← word? "match" then
    let _ ← g.expr false
    group .brace do
      let _ ← innerAttributes g
      let _ ← many (arm g)
  else if ← word? "unsafe" then g.block true
  else if ← word? "const" then g.block true
  else if ← word? "try" then g.block false
  else
    if ← next Next.lifetime then
      skip 1
      mark ":"
    expect fun tokens =>
      Next.wordIn ["while", "for", "loop"] tokens || Next.group .brace tokens
    loopOrBlock g
  return .block

/-- A construct that is built in, with its arguments as tokens. -/
def builtIn : Parser ExprForm := do
  skip 2
  let _ ← name
  expect (Next.group .paren)
  skip 1
  return .other

/-- An expression without operators. -/
def atom (braces : Bool) : Parser ExprForm := do
  let tokens ← rest
  let second := tokens.drop 1
  let third := tokens.drop 2
  if Next.literal tokens then return .plain (.literal (← literal))
  else if Next.word "async" tokens &&
      (Next.group .brace second || (Next.word "move" second && Next.group .brace third)) then
    skip 1
    let _ ← word? "move"
    g.block false
    return .other
  else if Next.word "try" tokens && Next.group .brace second then blockExpr g
  else if Next.closure tokens then closure g braces
  else if Next.word "builtin" tokens && Next.mark "#" second then builtIn
  else if Next.pathStart tokens ||
      (Next.word "try" tokens && (Next.mark "!" second || Next.mark "::" second)) then
    pathExpr g braces
  else if Next.group .paren tokens then parenExpr g
  else if Next.group .bracket tokens then bracketExpr g
  else if Next.mark ".." tokens then
    rangeEnd g braces
    return .range
  else if Next.wordIn ["break", "continue", "return", "yield", "become", "let", "_"] tokens then
    wordExpr g braces
  else blockExpr g

/-- An expression that can be a statement by itself begins here. -/
def Next.standsAlone (tokens : List Token) : Bool :=
  let second := tokens.drop 1
  let third := tokens.drop 2
  Next.wordIn ["if", "while", "loop", "match", "unsafe"] tokens ||
    (Next.word "for" tokens &&
      !(Next.mark "<" second && (Next.lifetime third || Next.mark ">" third))) ||
    (Next.wordIn ["try", "const"] tokens && Next.group .brace second) ||
    Next.group .brace tokens || Next.lifetime tokens

/-- The value of an arm, or an expression as a statement. One that can be a statement by
itself ends there, unless a point or a question mark follows. -/
def standaloneBody : Parser ExprForm := do
  let _ ← outerAttributes g
  let isAlone ← next Next.standsAlone
  let found ← if isAlone then atom g true else g.unary true
  if found matches .block then
    let goesOn (tokens : List Token) : Bool :=
      (Next.mark "." tokens && !Next.mark ".." tokens) || Next.mark "?" tokens
    if ← next goesOn then g.operations true Precedence.least (← trailers g found)
    else return found
  else g.operations true Precedence.least found

/-- An expression that no binary operator holds together. -/
def unaryBody (braces : Bool) : Parser ExprForm := do
  let attributes ← outerAttributes g
  if ← mark? "&" then
    let isRaw (tokens : List Token) : Bool :=
      Next.word "raw" tokens && Next.wordIn ["mut", "const"] (tokens.drop 1)
    if ← next isRaw then skip 2
    else
      let _ ← word? "mut"
    let _ ← g.unary braces
    return .other
  else if ← next fun tokens => ["*", "!", "-"].any (Next.mark · tokens) then
    skip 1
    let _ ← g.unary braces
    return .other
  else
    let found ← trailers g (← atom g braces)
    if found matches .range && !attributes.isEmpty then failure
    return found

end RouteSurvey.Source.Grammar
