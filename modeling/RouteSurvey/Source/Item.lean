import RouteSurvey.Source.Token

/-! # Items of source texts

What a survey needs to know of a source file: its structs, implementations and inline
modules, with their attributes, fields, signatures and types. Everything else is reduced
to the items that are declared inside it.
-/

namespace RouteSurvey.Source

/-- A type as written. -/
inductive TypeExpr where
  /-- A path and the types among the arguments of its last segment -/
  | path (segments : List Ident) (args : List TypeExpr)
  | reference (target : TypeExpr)
  | paren (inner : TypeExpr)
  | tuple (parts : List TypeExpr)
  /-- A type that is left to be inferred -/
  | hole
  /-- Any other type -/
  | other
deriving Repr, Inhabited

/-- An expression as far as it can be the value of an attribute. -/
inductive Expr where
  | literal (value : Literal)
  | path (segments : List Ident)
  | array (items : List Expr)
  | paren (inner : Expr)
  /-- Any other expression -/
  | other
deriving Repr, Inhabited

/-- What an attribute says about its path. -/
inductive Attribute.Content where
  | bare
  | value (expr : Expr)
  /-- Arguments in brackets, as tokens -/
  | arguments (tokens : List Token)

/-- An attribute. -/
structure Attribute where
  /-- The path begins with a separator -/
  isAbsolute : Bool
  path : List Ident
  content : Attribute.Content

namespace Attribute

/-- The attribute's path is the given single word. -/
def isNamed (name : String) (attr : Attribute) : Bool :=
  !attr.isAbsolute && attr.path.map Ident.text == [name]

end Attribute

/-- A named field of a struct. -/
structure FieldDecl where
  attributes : List Attribute
  name : Ident
  type : TypeExpr

/-- A parameter of a function. -/
inductive Argument where
  /-- The value the method is called on -/
  | receiver
  /-- A parameter, with its name if it is not taken apart -/
  | typed (attributes : List Attribute) (name? : Option Ident) (type : TypeExpr)

/-- A method with a body. -/
structure MethodDecl where
  attributes : List Attribute
  name : Ident
  arguments : List Argument
  /-- The type behind the arrow -/
  output? : Option TypeExpr

/-- An item. -/
inductive Item where
  /-- A module whose items stand inside it -/
  | module (name : Ident) (items : List Item)
  /-- A struct, with its fields if they are named -/
  | struct (attributes : List Attribute) (name : Ident) (fields : List FieldDecl)
  /-- Methods of a type that do not belong to a trait -/
  | methods (attributes : List Attribute) (self : TypeExpr) (methods : List MethodDecl)
  /-- Any other item, by the items inside it -/
  | other (inner : List Item)
deriving Inhabited

/-- A source file. -/
structure File where
  /-- Items in the attributes of the file itself -/
  header : List Item
  items : List Item
deriving Inhabited

end RouteSurvey.Source
