import RouteSurvey.Source.Parser

/-! # Grammar

The parts of a source text contain each other: types hold expressions, expressions hold
blocks, blocks hold items, and items hold types. A `Grammar` is a choice of parsers for
the parts that are reached this way, so that each part can be described by itself.
-/

namespace RouteSurvey.Source

/-- A segment of a path. -/
structure Segment where
  name : Ident
  /-- The types among the arguments in angle brackets, if there are any brackets -/
  args? : Option (List TypeExpr) := none

/-- A path. -/
structure PathForm where
  /-- It begins at a type in angle brackets -/
  isQualified : Bool := false
  /-- It begins with a separator -/
  isAbsolute : Bool := false
  segments : List Segment

namespace PathForm

/-- The names of the segments. -/
def names (path : PathForm) : List Ident :=
  path.segments.map Segment.name

/-- The last segment has no arguments. -/
def endsPlain (path : PathForm) : Bool :=
  path.segments.getLast?.any (·.args?.isNone)

/-- No segment has arguments. -/
def isPlain (path : PathForm) : Bool :=
  path.segments.all (·.args?.isNone)

/-- The types among the arguments of the last segment. -/
def lastTypes (path : PathForm) : List TypeExpr :=
  (path.segments.getLast?.bind Segment.args?).getD []

/-- The path as a type. -/
def type (path : PathForm) : TypeExpr :=
  .path path.names path.lastTypes

/-- A single segment with nothing before it. -/
def isSingle (path : PathForm) : Bool :=
  !path.isQualified && !path.isAbsolute && path.segments.length == 1

end PathForm

/-- A type as far as it decides how reading goes on. -/
inductive TypeForm where
  | path (path : PathForm)
  /-- Bounds without a leading word; whether there is just one -/
  | bounds (isOne : Bool)
  | plain (type : TypeExpr)

/-- The type itself. -/
def TypeForm.type : TypeForm → TypeExpr
  | path found => found.type
  | bounds _ => .other
  | plain found => found

/-- An expression as far as it decides how reading goes on. -/
inductive ExprForm where
  | plain (expr : Expr)
  | range
  | comparison
  /-- An expression that ends in braces and can be a statement by itself -/
  | block
  /-- An invocation with its arguments as tokens, in braces or not -/
  | invocation (inBraces : Bool)

/-- The expression itself. -/
def ExprForm.expr : ExprForm → Expr
  | plain found => found
  | _ => .other

/-- Any other expression. -/
def ExprForm.other : ExprForm :=
  plain .other

/-- A pattern as far as it matters. -/
inductive Pattern where
  | name (ident : Ident)
  /-- A range without one of its ends -/
  | openRange
  | other

/-- A kind of bound. -/
inductive Bound where
  | lifetime | type | capture
deriving DecidableEq

/-- Parsers for the parts of a source text. -/
structure Grammar where
  /-- A type, with further bounds behind a plus sign or without them -/
  type : (plus : Bool) → Parser TypeForm
  /-- A bound, where captures or constant bounds may be allowed -/
  bound : (captures constants : Bool) → Parser Bound
  /-- A pattern without alternatives -/
  pattern : Parser Pattern
  /-- An expression; without braces behind a path where they would begin a block -/
  expr : (braces : Bool) → Parser ExprForm
  /-- An expression that no binary operator holds together -/
  unary : (braces : Bool) → Parser ExprForm
  /-- What operators of at least some precedence make of a left operand -/
  operations : (braces : Bool) → (base : Nat) → (left : ExprForm) → Parser ExprForm
  /-- The value of an arm, or an expression as a statement -/
  standalone : Parser ExprForm
  /-- Statements in braces, where attributes of the block itself may be allowed -/
  block : (inner : Bool) → Parser Unit
  /-- An item behind its attributes; `header` are the items in these -/
  itemAfter : List Attribute → (header : List Item) → Parser Item

/-- The grammar without any texts. -/
def Grammar.empty : Grammar where
  type _ := failure
  bound _ _ := failure
  pattern := failure
  expr _ := failure
  unary _ := failure
  operations _ _ _ := failure
  standalone := failure
  block _ := failure
  itemAfter _ _ := failure

end RouteSurvey.Source
