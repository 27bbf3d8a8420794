import RouteSurvey.Source.Lexer.Number
import RouteSurvey.Source.Lexer.Quoted

/-! # Reading tokens of source texts

Splits a source text into tokens and nests them by their brackets.
-/

namespace RouteSurvey.Source.Lexer

/-- Reads a literal. -/
def literal (cs : List Char) : Option (Literal × List Char) :=
  quoted cs <|> number cs

/-- The marks, besides the single quote. -/
def marks : List Char :=
  "~!@#$%^&*-=+|;:,<.>/?".toList

/-- The next character is a mark, and not the beginning of a comment. -/
def beginsMark (cs : List Char) : Bool :=
  cs.head?.any (fun c => marks.contains c || c == '\'') && !begins "//" cs && !begins "/*" cs

/-- The beginnings of literals, which never begin an identifier. -/
def literalBeginnings : List String :=
  ["r\"", "r#\"", "r##", "b\"", "b'", "br\"", "br#", "c\"", "cr\"", "cr#"]

/-- Reads an identifier that is not the beginning of a literal. -/
def plainIdent (cs : List Char) : Option (Ident × List Char) :=
  if literalBeginnings.any (begins · cs) then none else ident cs

/-- Reads a lifetime behind its quote. Where a literal begins behind the quote, only the
quote is read. -/
def lifetime (cs : List Char) : Option (Token × List Char) := do
  let (_, rest) ← ident cs
  if begins "'" rest || (begins "#" rest && !begins "r#" cs) then none
  else if (literal cs).isSome then some (.punct '\'' true, cs)
  else do
    let (_, rest) ← plainIdent cs
    return (.lifetime, rest)

/-- Reads a token that is not a bracket. -/
def leaf (cs : List Char) : Option (Token × List Char) :=
  match literal cs with
  | some (found, rest) => some (.literal found, rest)
  | none =>
    if beginsMark cs then
      match cs with
      | '\'' :: rest => lifetime rest
      | c :: rest => some (.punct c (beginsMark rest), rest)
      | [] => none
    else (plainIdent cs).map fun (name, rest) => (.ident name, rest)

/-- The delimiter an opening bracket stands for. -/
def opening? : Char → Option Delimiter
  | '(' => some .paren
  | '[' => some .bracket
  | '{' => some .brace
  | _ => none

/-- The delimiter a closing bracket stands for. -/
def closing? : Char → Option Delimiter
  | ')' => some .paren
  | ']' => some .bracket
  | '}' => some .brace
  | _ => none

/-- The attribute that a documenting comment counts as; tokens come latest first. -/
def docTokens (text : List Char) (inner : Bool) : List Token :=
  let name : List Token := (Ident.ofChars? "doc".toList).elim [] fun name => [.ident name]
  let group := Token.group .bracket
    (name ++ [.punct '=' false, .literal (.text (String.ofList text))])
  group :: (if inner then [.punct '!' false] else []) ++ [.punct '#' false]

/-- An opened bracket, and the tokens before it, latest first. -/
abbrev Frame : Type := Delimiter × List Token

/-- A placeholder in brackets that counts as one literal. -/
def placeholder : String :=
  "(/*ERROR*/)"

/-- Reads tokens to the end of the text. `found` holds the tokens since the last opened
bracket, latest first. -/
def trees : (fuel : Nat) → List Frame → (found : List Token) → List Char → Option (List Token)
  | 0, _, _, _ => none
  | fuel + 1, frames, found, cs =>
    let cs := skipBlanks fuel cs
    match docComment cs with
    | some ((text, inner), rest) => trees fuel frames (docTokens text inner ++ found) rest
    | none =>
      match cs with
      | [] => if frames.isEmpty then some found.reverse else none
      | c :: rest =>
        if begins placeholder cs then
          trees fuel frames (.literal .other :: found) (cs.drop placeholder.length)
        else match opening? c, closing? c with
          | some delimiter, _ => trees fuel ((delimiter, found) :: frames) [] rest
          | none, some delimiter =>
            match frames with
            | (opened, outer) :: frames =>
              if opened = delimiter then
                trees fuel frames (.group delimiter found.reverse :: outer) rest
              else none
            | [] => none
          | none, none => do
            let (token, rest) ← leaf cs
            trees fuel frames (token :: found) rest

end Lexer

/-- The text without a byte order mark at its beginning. -/
def dropMark : List Char → List Char
  | '\uFEFF' :: rest => rest
  | cs => cs

/-- Splits a text into trees of tokens. -/
def Token.scan? (cs : List Char) : Option (List Token) :=
  let cs := dropMark cs
  Lexer.trees (cs.length + 1) [] [] cs

/-- The text of a file without what may stand before the first token: a byte order mark,
and a line that names an interpreter. -/
def dropPreamble (cs : List Char) : List Char :=
  let cs := dropMark cs
  if Lexer.begins "#!" cs &&
      !Lexer.begins "[" (Lexer.skipBlanks cs.length (cs.drop 2)) then
    cs.dropWhile (· ≠ '\n')
  else cs

end RouteSurvey.Source
