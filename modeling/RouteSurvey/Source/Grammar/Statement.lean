import RouteSurvey.Source.Grammar.Expression

/-! # Statements

The statements of a block, and the items among them.
-/

namespace RouteSurvey.Source.Grammar

open RouteSurvey.Source.Parser

variable (g : Grammar)

/-- The last token that was read is a group in braces. -/
def endsInBraces (before after : List Token) : Bool :=
  (before.take (before.length - after.length)).getLast?.any fun token => Next.group .brace [token]

/-- A binding of names. A block for the other case may follow a value that does not end in
braces itself. -/
def binding : Parser Unit := do
  word "let"
  let _ ← g.pattern
  if ← mark? ":" then
    let _ ← g.type true
  if ← mark? "=" then
    let before ← rest
    let _ ← g.expr true
    let after ← rest
    if ← provided (!endsInBraces before after) (word? "else") then g.block false
  mark ";"

/-- An item begins here and not an expression. -/
def Next.item (tokens : List Token) : Bool :=
  let second := tokens.drop 1
  let third := tokens.drop 2
  let functionWords := ["unsafe", "extern", "fn"]
  Next.wordIn ["pub", "extern", "use", "fn", "mod", "type", "struct", "enum", "trait", "impl",
      "macro"] tokens ||
    (Next.word "crate" tokens && !Next.mark "::" second) ||
    (Next.word "static" tokens && (Next.word "mut" second || Next.name second)) ||
    (Next.word "const" tokens &&
      !(Next.group .brace second || Next.wordIn ["static", "move"] second ||
        Next.mark "|" second ||
        (Next.word "async" second && !Next.wordIn functionWords third))) ||
    (Next.word "unsafe" tokens && !Next.group .brace second) ||
    (Next.word "async" tokens && Next.wordIn functionWords second) ||
    (Next.word "union" tokens && Next.name second) ||
    (Next.word "auto" tokens && Next.word "trait" second) ||
    (Next.word "default" tokens && Next.wordIn ["unsafe", "impl"] second)

/-- An invocation as a statement. -/
inductive Invocation where
  /-- It has a name of its own and is an item -/
  | item
  /-- It ends in braces, which nothing follows -/
  | braced

/-- The invocation that begins with the path at the front. -/
def invocation? : Parser (Option Invocation) := do
  match ← behind? plainPath with
  | none => return none
  | some after =>
    let second := after.drop 1
    let third := after.drop 2
    if !Next.mark "!" after then return none
    else if Next.name second || Next.word "try" second then return some .item
    else if Next.group .brace second && !(Next.mark "." third || Next.mark "?" third) then
      return some .braced
    else return none

/-- An expression as a statement; tells whether a semicolon is missing behind it. -/
def exprStatement : Parser Bool := do
  let found ← g.standalone
  if ← mark? ";" then return false
  else return match found with
    | .block => false
    | .invocation inBraces => !inBraces
    | _ => true

/-- A statement; tells whether a semicolon is missing behind it. -/
def statement : Parser Bool := do
  let (attributes, header) ← gather (outerAttributes g)
  let invocation ← invocation?
  if invocation matches some .braced then
    noteAll header
    let _ ← plainPath
    skip 2
    let _ ← mark? ";"
    return false
  else if ← next (Next.word "let") then
    noteAll header
    binding g
    return false
  else if invocation.isSome || (← next Next.item) then
    note (← g.itemAfter attributes header)
    return false
  else
    noteAll header
    exprStatement g

/-- The statements of a block. Only behind the last one a semicolon may be missing. -/
def statementsAux : (fuel : Nat) → Parser Unit
  | 0 => failure
  | fuel + 1 => do
    let _ ← manyWhile (Next.mark ";") (mark ";")
    if ← next Next.nothing then return
    let isOpen ← statement g
    if ← next Next.nothing then return
    if isOpen then failure
    statementsAux fuel

/-- The statements of a block. -/
def statements : Parser Unit := do
  statementsAux g ((← rest).length + 1)

/-- Statements in braces, where attributes of the block itself may be allowed. -/
def blockBody (inner : Bool) : Parser Unit :=
  group .brace do
    if inner then
      let _ ← innerAttributes g
    statements g

end RouteSurvey.Source.Grammar
