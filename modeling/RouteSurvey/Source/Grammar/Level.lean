import RouteSurvey.Source.Grammar.Item
import RouteSurvey.Source.Lexer

/-! # Source texts

The grammar of all texts up to some depth of nesting, and the readings of whole texts.
Between two levels at least one token is read, apart from a bounded number of steps, so
a multiple of the number of tokens is deep enough.
-/

namespace RouteSurvey.Source

namespace Grammar

/-- The grammar of texts up to some depth of nesting. -/
def level : (depth : Nat) → Grammar
  | 0 => Grammar.empty
  | depth + 1 => {
      type := fun plus => .delayed fun _ => typeBody (level depth) plus
      bound := fun captures constants => .delayed fun _ =>
        boundBody (level depth) captures constants
      pattern := .delayed fun _ => patternBody (level depth)
      expr := fun braces => .delayed fun _ => exprBody (level depth) braces
      unary := fun braces => .delayed fun _ => unaryBody (level depth) braces
      operations := fun braces base left => .delayed fun _ =>
        operationsBody (level depth) braces base left
      standalone := .delayed fun _ => standaloneBody (level depth)
      block := fun inner => .delayed fun _ => blockBody (level depth) inner
      itemAfter := fun attributes header => .delayed fun _ =>
        itemAfterBody (level depth) attributes header }

/-- The result of a parser that reads all tokens. -/
def readAll? {α : Type} (parser : Grammar → Parser α) (tokens : List Token) : Option α := do
  let (found, state) ← (parser (level (8 * Token.totalSize tokens + 8))).run { rest := tokens }
  if state.rest.isEmpty then some found else none

/-- The attributes of a file, and its items. -/
def file (g : Grammar) : Parser File := do
  let (_, header) ← Parser.gather (innerAttributes g)
  return ⟨header, ← Parser.many (itemBody g)⟩

end Grammar

/-- Reads a text as a source file. -/
def File.ofText? (text : String) : Option File := do
  Grammar.readAll? Grammar.file (← Token.scan? (dropPreamble text.toList))

/-- Reads a text as a type. -/
def TypeExpr.ofText? (text : String) : Option TypeExpr := do
  Grammar.readAll? (fun g => TypeForm.type <$> g.type true) (← Token.scan? text.toList)

end RouteSurvey.Source
