import RouteSurvey.Source.Token

/-! # Words and blanks

Reading identifiers, and skipping what separates tokens: blanks and comments. A comment
that documents something is not skipped, because it counts as an attribute.
-/

namespace RouteSurvey.Source.Lexer

/-- The text begins with the given characters. -/
def begins (expected : String) (cs : List Char) : Bool :=
  expected.toList.isPrefixOf cs

/-- Reads the characters of an identifier. -/
def word : List Char → Option (List Char × List Char)
  | c :: rest =>
    if isIdentStart c then
      let (more, rest) := rest.span isIdentContinue
      some (c :: more, rest)
    else none
  | [] => none

/-- Drops a word, if one stands there. -/
def dropWord (cs : List Char) : List Char :=
  (word cs).elim cs (·.2)

/-- The words that cannot be written with a leading mark. -/
def neverRaw : List String :=
  ["_", "super", "self", "Self", "crate"]

/-- Reads an identifier, which may be marked as raw. -/
def ident (cs : List Char) : Option (Ident × List Char) :=
  if begins "r#" cs then do
    let (found, rest) ← word (cs.drop 2)
    if neverRaw.contains (String.ofList found) then none
    else return (← Ident.ofChars? ('r' :: '#' :: found), rest)
  else do
    let (found, rest) ← word cs
    return (← Ident.ofChars? found, rest)

/-- The text up to the end of the line, and the rest. A carriage return belongs to the end
of the line only before a line feed. -/
def line : List Char → List Char × List Char
  | [] => ([], [])
  | '\n' :: rest => ([], '\n' :: rest)
  | '\r' :: '\n' :: rest => ([], '\n' :: rest)
  | c :: rest =>
    let (more, rest) := line rest
    (c :: more, rest)

/-- Reads on to the end of a block comment, inside `depth` of them. -/
def commentEnd : (depth : Nat) → List Char → Option (List Char × List Char)
  | depth, '/' :: '*' :: rest => (commentEnd (depth + 1) rest).map fun (more, rest) =>
    ('/' :: '*' :: more, rest)
  | depth, '*' :: '/' :: rest =>
    if depth ≤ 1 then some (['*', '/'], rest)
    else (commentEnd (depth - 1) rest).map fun (more, rest) => ('*' :: '/' :: more, rest)
  | depth, c :: rest => (commentEnd depth rest).map fun (more, rest) => (c :: more, rest)
  | _, [] => none

/-- Reads a block comment. -/
def blockComment : List Char → Option (List Char × List Char)
  | '/' :: '*' :: rest => (commentEnd 1 rest).map fun (more, rest) => ('/' :: '*' :: more, rest)
  | _ => none

/-- A line comment that documents nothing. -/
def beginsPlainLine (cs : List Char) : Bool :=
  begins "//" cs && (!begins "///" cs || begins "////" cs) && !begins "//!" cs

/-- A block comment that documents nothing. -/
def beginsPlainBlock (cs : List Char) : Bool :=
  begins "/*" cs && (!begins "/**" cs || begins "/***" cs) && !begins "/*!" cs

/-- Skips blanks and comments. -/
def skipBlanks : (fuel : Nat) → List Char → List Char
  | 0, cs => cs
  | fuel + 1, cs =>
    if beginsPlainLine cs then skipBlanks fuel (line cs).2
    else if begins "/**/" cs then skipBlanks fuel (cs.drop 4)
    else if beginsPlainBlock cs then
      match blockComment cs with
      | some (_, rest) => skipBlanks fuel rest
      | none => cs
    else match cs with
      | c :: rest => if isBlankChar c then skipBlanks fuel rest else cs
      | [] => cs

/-- A carriage return stands without a line feed behind it. -/
def hasBareReturn : List Char → Bool
  | '\r' :: '\n' :: rest => hasBareReturn rest
  | '\r' :: _ => true
  | _ :: rest => hasBareReturn rest
  | [] => false

/-- The text of a documenting comment, and whether it documents what is around it. -/
def docComment (cs : List Char) : Option ((List Char × Bool) × List Char) := do
  let ((text, inner), rest) ←
    if begins "//!" cs then
      let (text, rest) := line (cs.drop 3)
      some ((text, true), rest)
    else if begins "/*!" cs then
      (blockComment cs).map fun (text, rest) => (((text.drop 3).dropLast.dropLast, true), rest)
    else if begins "///" cs && !begins "////" cs then
      let (text, rest) := line (cs.drop 3)
      some ((text, false), rest)
    else if begins "/**" cs && !begins "/***" cs then
      (blockComment cs).map fun (text, rest) => (((text.drop 3).dropLast.dropLast, false), rest)
    else none
  if hasBareReturn text then none else some ((text, inner), rest)

end RouteSurvey.Source.Lexer
