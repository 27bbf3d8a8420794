import RouteSurvey.Source.Lexer.Word

/-! # Quoted literals

Reading literals between quotes: text, characters, bytes and terminated text. Only the
value of text matters; of the others it is only checked that they are well formed.
-/

namespace RouteSurvey.Source.Lexer

/-- The value of a hexadecimal digit. -/
def hexDigit? (c : Char) : Option Nat :=
  if '0' ≤ c && c ≤ '9' then some (c.toNat - '0'.toNat)
  else if 'a' ≤ c && c ≤ 'f' then some (c.toNat - 'a'.toNat + 10)
  else if 'A' ≤ c && c ≤ 'F' then some (c.toNat - 'A'.toNat + 10)
  else none

/-- What a kind of quoted literal may hold. -/
structure Alphabet where
  /-- A character that may stand as it is -/
  plain : Char → Bool
  /-- A value that two hexadecimal digits may give -/
  byte : Nat → Bool
  /-- The escapes of one letter -/
  letters : List Char
  /-- Escapes by code point are allowed -/
  codePoints : Bool

namespace Alphabet

/-- Text and characters. -/
def text : Alphabet :=
  ⟨fun _ => true, (· < 0x80), ['n', 'r', 't', '\\', '\'', '"', '0'], true⟩

/-- Bytes. -/
def bytes : Alphabet :=
  ⟨(·.toNat < 0x80), fun _ => true, ['n', 'r', 't', '\\', '\'', '"', '0'], false⟩

/-- Text that a zero terminates, which therefore holds none. -/
def terminated : Alphabet :=
  ⟨(· ≠ '\x00'), (· ≠ 0), ['n', 'r', 't', '\\', '\'', '"'], true⟩

end Alphabet

/-- The character an escape of one letter stands for. -/
def letterEscape (c : Char) : Char :=
  if c == 'n' then '\n'
  else if c == 'r' then '\r'
  else if c == 't' then '\t'
  else if c == '0' then '\x00'
  else c

/-- Reads a code point up to its closing brace: up to six hexadecimal digits, with
underscores behind the first one. -/
def codePoint : (count value : Nat) → List Char → Option (Char × List Char)
  | count, value, c :: rest =>
    match hexDigit? c with
    | some d => if count = 6 then none else codePoint (count + 1) (16 * value + d) rest
    | none =>
      if count = 0 then none
      else if c == '_' then codePoint count value rest
      else if c == '}' then
        if value.isValidChar then some (Char.ofNat value, rest) else none
      else none
  | _, _, [] => none

/-- Reads an escape behind its backslash. -/
def escape (alphabet : Alphabet) : List Char → Option (Char × List Char)
  | 'x' :: a :: b :: rest => do
    let value := 16 * (← hexDigit? a) + (← hexDigit? b)
    if alphabet.byte value then some (Char.ofNat value, rest) else none
  | 'u' :: '{' :: rest => do
    if !alphabet.codePoints then none
    let (c, rest) ← codePoint 0 0 rest
    if alphabet.plain c then some (c, rest) else none
  | c :: rest => if alphabet.letters.contains c then some (letterEscape c, rest) else none
  | [] => none

/-- Skips a line break behind a backslash and the blanks after it. -/
def continuation : List Char → Option (List Char)
  | '\r' :: '\n' :: rest => continuation rest
  | '\r' :: _ => none
  | '\n' :: rest => continuation rest
  | ' ' :: rest => continuation rest
  | '\t' :: rest => continuation rest
  | [] => none
  | rest => some rest

/-- Reads up to the closing quote, with escapes. A carriage return has to stand before a
line feed, and the two count as a line feed. -/
def cooked (alphabet : Alphabet) : (fuel : Nat) → List Char → Option (List Char × List Char)
  | 0, _ => none
  | fuel + 1, cs =>
    match cs with
    | '"' :: rest => some ([], rest)
    | '\r' :: '\n' :: rest => do
      let (more, rest) ← cooked alphabet fuel rest
      return ('\n' :: more, rest)
    | '\r' :: _ => none
    | '\\' :: rest =>
      if begins "\n" rest || begins "\r" rest then do cooked alphabet fuel (← continuation rest)
      else do
        let (c, rest) ← escape alphabet rest
        let (more, rest) ← cooked alphabet fuel rest
        return (c :: more, rest)
    | c :: rest =>
      if alphabet.plain c then do
        let (more, rest) ← cooked alphabet fuel rest
        return (c :: more, rest)
      else none
    | [] => none

/-- Reads raw text up to a quote with the given number of signs behind it. -/
def rawBody (alphabet : Alphabet) (signs : List Char) :
    List Char → Option (List Char × List Char)
  | [] => none
  | '\r' :: '\n' :: rest => do
    let (more, rest) ← rawBody alphabet signs rest
    return ('\r' :: '\n' :: more, rest)
  | '\r' :: _ => none
  | c :: rest =>
    if c == '"' && signs.isPrefixOf rest then some ([], rest.drop signs.length)
    else if alphabet.plain c then do
      let (more, rest) ← rawBody alphabet signs rest
      return (c :: more, rest)
    else none

/-- Reads a raw literal behind the letters that announce it. -/
def raw (alphabet : Alphabet) (cs : List Char) : Option (List Char × List Char) :=
  let (signs, rest) := cs.span (· == '#')
  match rest with
  | '"' :: rest => if 255 < signs.length then none else rawBody alphabet signs rest
  | _ => none

/-- Reads one character or escape and a closing single quote. -/
def single (alphabet : Alphabet) : List Char → Option (List Char)
  | '\\' :: rest => do
    let (_, rest) ← escape alphabet rest
    if begins "'" rest then some (rest.drop 1) else none
  | c :: '\'' :: rest => if alphabet.plain c then some rest else none
  | _ => none

/-- Reads a literal that is announced by some letters, raw or with escapes. -/
def announced (letters : String) (alphabet : Alphabet) (cs : List Char) :
    Option (List Char × List Char) :=
  if begins (letters ++ "\"") cs then cooked alphabet cs.length (cs.drop (letters.length + 1))
  else if begins (letters ++ "r") cs then raw alphabet (cs.drop (letters.length + 1))
  else none

/-- Reads a quoted literal without suffix. -/
def quotedBody (cs : List Char) : Option (Literal × List Char) :=
  let found := (announced "" .text cs).map fun (value, rest) =>
    (Literal.text (String.ofList value), rest)
  let others := announced "b" .bytes cs <|> announced "c" .terminated cs
  let lone :=
    if begins "b'" cs then single .bytes (cs.drop 2)
    else if begins "'" cs then single .text (cs.drop 1)
    else none
  found <|> others.map (fun (_, rest) => (.other, rest)) <|> lone.map (.other, ·)

/-- Reads a quoted literal, behind which a word may stand as its suffix. -/
def quoted (cs : List Char) : Option (Literal × List Char) :=
  (quotedBody cs).map fun (found, rest) => (found, dropWord rest)

end RouteSurvey.Source.Lexer
