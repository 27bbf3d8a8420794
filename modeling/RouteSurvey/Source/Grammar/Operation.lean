import RouteSurvey.Source.Grammar.Type

/-! # Operations

Expressions held together by operators, by the precedence of these.
-/

namespace RouteSurvey.Source.Grammar

open RouteSurvey.Source.Parser

namespace Precedence

/-- Below all operators. -/
def least : Nat := 0

/-- Assignments. -/
def assign : Nat := 1

/-- Ranges. -/
def range : Nat := 2

/-- Comparisons. -/
def compare : Nat := 6

/-- Conversions to a type. -/
def cast : Nat := 13

end Precedence

/-- The binary operators with their precedence. An operator stands before those that begin
it. -/
def operators : List (String × Nat) :=
  [("+=", Precedence.assign), ("-=", Precedence.assign), ("*=", Precedence.assign),
    ("/=", Precedence.assign), ("%=", Precedence.assign), ("^=", Precedence.assign),
    ("&=", Precedence.assign), ("|=", Precedence.assign), ("<<=", Precedence.assign),
    (">>=", Precedence.assign), ("&&", 4), ("||", 3), ("<<", 10), (">>", 10),
    ("==", Precedence.compare), ("<=", Precedence.compare), ("!=", Precedence.compare),
    (">=", Precedence.compare), ("+", 11), ("-", 11), ("*", 12), ("/", 12), ("%", 12),
    ("^", 8), ("&", 9), ("|", 7), ("<", Precedence.compare), (">", Precedence.compare)]

/-- The binary operator at the front. -/
def operator? (tokens : List Token) : Option (String × Nat) :=
  operators.find? fun entry => Next.mark entry.1 tokens

/-- A plain assignment stands at the front. -/
def Next.assignment (tokens : List Token) : Bool :=
  Next.mark "=" tokens && !Next.mark "=>" tokens

/-- The precedence of what stands at the front. -/
def precedenceOf (tokens : List Token) : Nat :=
  match operator? tokens with
  | some (_, precedence) => precedence
  | none =>
    if Next.assignment tokens then Precedence.assign
    else if Next.mark ".." tokens then Precedence.range
    else if Next.word "as" tokens then Precedence.cast
    else Precedence.least

variable (g : Grammar)

/-- The right operand of an operator: it takes in all operators that bind more tightly, and
assignments take in each other. -/
def rightOperandFrom (braces : Bool) (precedence : Nat) : (fuel : Nat) → ExprForm → Parser ExprForm
  | 0, _ => failure
  | fuel + 1, found => do
    let tokens ← rest
    let ahead := precedenceOf tokens
    if precedence < ahead || (ahead = precedence && precedence = Precedence.assign) then
      let found ← g.operations braces ahead found
      if (← rest).length = tokens.length then return found
      else rightOperandFrom braces precedence fuel found
    else return found

/-- The right operand of an operator. -/
def rightOperand (braces : Bool) (precedence : Nat) : Parser ExprForm := do
  let first ← g.unary braces
  rightOperandFrom g braces precedence ((← rest).length + 1) first

/-- The dots of a range in an expression; tells whether its last value is included. -/
def dots : Parser Bool := do
  refuse (Next.mark "...")
  if ← mark? "..=" then return true
  else
    mark ".."
    return false

/-- A range without end can end here. -/
def Next.rangeEnd (braces : Bool) (tokens : List Token) : Bool :=
  Next.nothing tokens || Next.mark "," tokens || Next.mark ";" tokens ||
    (Next.mark "." tokens && !Next.mark ".." tokens) || Next.mark "?" tokens ||
    (!braces && Next.group .brace tokens) ||
    ["=", "+", "/", "%", "^", ">", "<=", "!=", "-=", "*=", "&=", "|=", "<<="].any
      (Next.mark · tokens) ||
    Next.word "as" tokens

/-- The end of a range, which may be missing unless it is included. -/
def rangeEnd (braces : Bool) : Parser Unit := do
  let isClosed ← dots
  if !isClosed && (← next (Next.rangeEnd braces)) then return
  let _ ← rightOperand g braces Precedence.range

/-- What must not follow a conversion without parentheses. -/
def refuseAfterCast : Parser Unit :=
  refuse fun tokens =>
    (Next.mark "." tokens && !Next.mark ".." tokens) || Next.mark "?" tokens ||
      Next.group .bracket tokens || Next.group .paren tokens

/-- What operators of at least some precedence make of a left operand. -/
def operationsFrom (braces : Bool) (base : Nat) : (fuel : Nat) → ExprForm → Parser ExprForm
  | 0, _ => failure
  | fuel + 1, left => do
    let tokens ← rest
    if left matches .range then return left
    else match operator? tokens with
      | some (operator, precedence) =>
        if precedence < base then return left
        let isComparison := precedence = Precedence.compare
        if isComparison && left matches .comparison then failure
        skip operator.length
        let _ ← rightOperand g braces precedence
        operationsFrom braces base fuel (if isComparison then .comparison else .other)
      | none =>
        if base ≤ Precedence.assign && Next.assignment tokens then
          skip 1
          let _ ← rightOperand g braces Precedence.assign
          operationsFrom braces base fuel .other
        else if base ≤ Precedence.range && Next.mark ".." tokens then
          rangeEnd g braces
          operationsFrom braces base fuel .range
        else if base ≤ Precedence.cast && Next.word "as" tokens then
          skip 1
          let _ ← g.type false
          refuseAfterCast
          operationsFrom braces base fuel .other
        else return left

/-- What operators of at least some precedence make of a left operand. -/
def operationsBody (braces : Bool) (base : Nat) (left : ExprForm) : Parser ExprForm := do
  operationsFrom g braces base ((← rest).length + 1) left

/-- An expression. -/
def exprBody (braces : Bool) : Parser ExprForm := do
  g.operations braces Precedence.least (← g.unary braces)

/-- An expression that stands between others. -/
def anyExpr : Parser Expr :=
  return (← g.expr true).expr

end RouteSurvey.Source.Grammar
