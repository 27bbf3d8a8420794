import RouteSurvey.Source.Character

/-! # Tokens of source texts

Identifiers, literals, and trees of tokens nested by their brackets.
-/

namespace RouteSurvey.Source

/-- A character of an identifier; a number sign marks one that would be a keyword. -/
def isIdentPart (c : Char) : Bool :=
  isIdentContinue c || c == '#'

/-- An identifier or a keyword. -/
structure Ident where
  text : String
  /-- Separators of paths and of type arguments never occur -/
  valid : text.toList.all isIdentPart = true

instance : BEq Ident :=
  ⟨fun a b => a.text == b.text⟩

instance : Repr Ident :=
  ⟨fun name _ => repr name.text⟩

namespace Ident

/-- Makes an identifier of characters that may stand in one. -/
def ofChars? (cs : List Char) : Option Ident :=
  if h : (String.ofList cs).toList.all isIdentPart = true then some ⟨String.ofList cs, h⟩ else none

/-- The words that name nothing. -/
def keywords : List String :=
  ["_", "abstract", "as", "async", "await", "become", "box", "break", "const", "continue",
    "crate", "do", "dyn", "else", "enum", "extern", "false", "final", "fn", "for", "if", "impl",
    "in", "let", "loop", "macro", "match", "mod", "move", "mut", "override", "priv", "pub",
    "ref", "return", "Self", "self", "static", "struct", "super", "trait", "true", "try",
    "type", "typeof", "unsafe", "unsized", "use", "virtual", "where", "while", "yield"]

/-- The identifier is a name and not a keyword. -/
def isName (ident : Ident) : Bool :=
  !keywords.contains ident.text

end Ident

/-- A literal. -/
inductive Literal where
  | text (value : String)
  /-- A whole number, by its decimal digits -/
  | integer (digits suffix : String)
  /-- A number with a fraction or an exponent, as written -/
  | float (written : String)
  | flag (value : Bool)
  /-- A character, bytes, or anything else -/
  | other
deriving Repr, BEq

/-- A kind of brackets. -/
inductive Delimiter where
  | paren | bracket | brace
deriving DecidableEq, Repr

/-- A token. -/
inductive Token where
  | group (delimiter : Delimiter) (inner : List Token)
  | ident (name : Ident)
  /-- A mark; `joint` if another mark follows at once -/
  | punct (c : Char) (joint : Bool)
  | lifetime
  | literal (value : Literal)

namespace Token

mutual

/-- The number of tokens in a tree. -/
def size : Token → Nat
  | group _ inner => 1 + totalSize inner
  | _ => 1

/-- The number of tokens in a sequence of trees. -/
def totalSize : List Token → Nat
  | [] => 0
  | token :: rest => token.size + totalSize rest

end

end Token

end RouteSurvey.Source
