import RouteSurvey.Data.Datum

/-! # Reading JSON

A strict reader of JSON texts. Containers nested deeper than the limit, numbers beyond
double precision and strings with half a surrogate pair have the right syntax but come
out as `Datum.unreadable`.
-/

namespace RouteSurvey.Data.Json

/-- How many containers may stand inside each other. -/
def nestingLimit : Nat := 127

/-- A blank between tokens. -/
def isBlank (c : Char) : Bool :=
  c == ' ' || c == '\n' || c == '\t' || c == '\r'

/-- Drops blanks. -/
def skipBlanks (cs : List Char) : List Char :=
  cs.dropWhile isBlank

/-- The value of a hexadecimal digit. -/
def hexDigit? (c : Char) : Option Nat :=
  if '0' ≤ c && c ≤ '9' then some (c.toNat - '0'.toNat)
  else if 'a' ≤ c && c ≤ 'f' then some (c.toNat - 'a'.toNat + 10)
  else if 'A' ≤ c && c ≤ 'F' then some (c.toNat - 'A'.toNat + 10)
  else none

/-- A piece of a string: a character, or a code unit written as an escape. -/
inductive Piece where
  | char (c : Char)
  | unit (n : Nat)

/-- The characters that stand behind a backslash for one character. -/
def simpleEscape? : Char → Option Char
  | '"' => some '"'
  | '\\' => some '\\'
  | '/' => some '/'
  | 'b' => some '\x08'
  | 'f' => some '\x0C'
  | 'n' => some '\n'
  | 'r' => some '\r'
  | 't' => some '\t'
  | _ => none

/-- Reads the pieces of a string up to its closing quote. -/
def pieces : List Char → Option (List Piece × List Char)
  | [] => none
  | '"' :: rest => some ([], rest)
  | '\\' :: 'u' :: a :: b :: c :: d :: rest => do
    let n := 4096 * (← hexDigit? a) + 256 * (← hexDigit? b) + 16 * (← hexDigit? c) + (← hexDigit? d)
    let (more, rest) ← pieces rest
    return (.unit n :: more, rest)
  | '\\' :: c :: rest => do
    let plain ← simpleEscape? c
    let (more, rest) ← pieces rest
    return (.char plain :: more, rest)
  | c :: rest =>
    if c.toNat < 0x20 || c == '\\' then none
    else do
      let (more, rest) ← pieces rest
      return (.char c :: more, rest)

/-- The first half of a surrogate pair. -/
def isHighSurrogate (n : Nat) : Bool :=
  0xD800 ≤ n && n < 0xDC00

/-- The second half of a surrogate pair. -/
def isLowSurrogate (n : Nat) : Bool :=
  0xDC00 ≤ n && n < 0xE000

/-- Puts pieces together; none if half a surrogate pair is left over. -/
def assemble : List Piece → Option (List Char)
  | [] => some []
  | .char c :: rest => (assemble rest).map (c :: ·)
  | .unit n :: rest =>
    if isHighSurrogate n then
      match rest with
      | .unit low :: rest =>
        if isLowSurrogate low then
          (assemble rest).map (Char.ofNat (0x10000 + (n - 0xD800) * 0x400 + (low - 0xDC00)) :: ·)
        else none
      | _ => none
    else if isLowSurrogate n then none
    else (assemble rest).map (Char.ofNat n :: ·)

/-- Reads a string behind its opening quote. -/
def string (cs : List Char) : Option (Datum × List Char) := do
  let (found, rest) ← pieces cs
  return ((assemble found).elim .unreadable fun chars => .text (String.ofList chars), rest)

/-- Splits off the leading digits. -/
def digits (cs : List Char) : List Char × List Char :=
  cs.span Char.isDigit

/-- Reads an exponent behind its letter. -/
def exponent (cs : List Char) : Option (Int × List Char) :=
  let (negative, cs) := match cs with
    | '-' :: rest => (true, rest)
    | '+' :: rest => (false, rest)
    | cs => (false, cs)
  let (found, rest) := digits cs
  if found.isEmpty then none
  else
    let n := (Decimal.natOfDigits found : Int)
    some (if negative then -n else n, rest)

/-- Reads the fraction of a number, if there is one. -/
def fraction : List Char → Option (List Char × List Char)
  | '.' :: cs =>
    let (found, rest) := digits cs
    if found.isEmpty then none else some (found, rest)
  | cs => some ([], cs)

/-- Reads the power of ten of a number, if there is one. -/
def power : List Char → Option (Int × List Char)
  | 'e' :: cs => exponent cs
  | 'E' :: cs => exponent cs
  | cs => some (0, cs)

/-- Reads a number without its sign. A zero in front of further digits is an error. -/
def number (cs : List Char) : Option (Datum × List Char) := do
  let (whole, rest) := digits cs
  if whole.isEmpty || (whole.head? == some '0' && whole.length ≠ 1) then none
  let (places, rest) ← fraction rest
  let (tens, rest) ← power rest
  if Decimal.overflows (whole ++ places) (tens - places.length) then
    return (.unreadable, rest)
  else
    return (.number none, rest)

/-- Drops a word from the front. -/
def word (expected : String) (value : Datum) (cs : List Char) : Option (Datum × List Char) :=
  if expected.toList.isPrefixOf cs then some (value, cs.drop expected.length) else none

/-- A container, which is readable only as long as there is room for it. -/
def container (room : Nat) (value : Datum) : Datum :=
  if room = 0 then .unreadable else value

/-- The record of entries; a record with an unreadable key is unreadable. -/
def recordOf (entries : List (Datum × Datum)) : Datum :=
  if entries.all (·.1.isReadable) then .record entries else .unreadable

mutual

/-- Reads a value from which blanks have been dropped. `room` counts the containers that
may still be opened; `fuel` bounds the steps. -/
def value : (fuel room : Nat) → List Char → Option (Datum × List Char)
  | 0, _, _ => none
  | fuel + 1, room, cs =>
    match cs with
    | '[' :: rest =>
      match skipBlanks rest with
      | ']' :: rest => some (container room (.list []), rest)
      | rest => do
        let (found, rest) ← items fuel (room - 1) rest
        return (container room (.list found), rest)
    | '{' :: rest =>
      match skipBlanks rest with
      | '}' :: rest => some (container room (.record []), rest)
      | rest => do
        let (found, rest) ← entries fuel (room - 1) rest
        return (container room (recordOf found), rest)
    | '"' :: rest => string rest
    | '-' :: rest => number rest
    | 'n' :: _ => word "null" .null cs
    | 't' :: _ => word "true" (.flag true) cs
    | 'f' :: _ => word "false" (.flag false) cs
    | cs => number cs

/-- Reads the items of a list up to its closing bracket. -/
def items : (fuel room : Nat) → List Char → Option (List Datum × List Char)
  | 0, _, _ => none
  | fuel + 1, room, cs => do
    let (item, rest) ← value fuel room cs
    match skipBlanks rest with
    | ',' :: rest =>
      let (more, rest) ← items fuel room (skipBlanks rest)
      return (item :: more, rest)
    | ']' :: rest => return ([item], rest)
    | _ => none

/-- Reads the entries of a record up to its closing brace. -/
def entries : (fuel room : Nat) → List Char → Option (List (Datum × Datum) × List Char)
  | 0, _, _ => none
  | fuel + 1, room, cs =>
    match cs with
    | '"' :: rest => do
      let (key, rest) ← string rest
      match skipBlanks rest with
      | ':' :: rest =>
        let (found, rest) ← value fuel room (skipBlanks rest)
        match skipBlanks rest with
        | ',' :: rest =>
          let (more, rest) ← entries fuel room (skipBlanks rest)
          return ((key, found) :: more, rest)
        | '}' :: rest => return ([(key, found)], rest)
        | _ => none
      | _ => none
    | _ => none

end

/-- Reads a text that holds one value and blanks. Every step takes a character, so the
length of the text bounds the steps. -/
def read? (text : String) : Option Datum := do
  let cs := text.toList
  let (found, rest) ← value (2 * cs.length + 2) nestingLimit (skipBlanks cs)
  if (skipBlanks rest).isEmpty then some found else none

end RouteSurvey.Data.Json
