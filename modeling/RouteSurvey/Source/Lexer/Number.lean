import RouteSurvey.Source.Lexer.Word

/-! # Numbers

Reading numbers, and telling whole numbers from those with a fraction or an exponent. A
word directly behind a number is its suffix.
-/

namespace RouteSurvey.Source.Lexer

/-- A digit or an underscore. -/
def isDigitPart (c : Char) : Bool :=
  c.isDigit || c == '_'

/-- The letter of an exponent. -/
def isExponentMark (c : Char) : Bool :=
  c == 'e' || c == 'E'

/-- Reads an exponent behind its letter: a sign, if one stands before the first digit, and
at least one digit. -/
def exponent : (signed filled : Bool) → List Char → Option (List Char × List Char)
  | signed, filled, c :: rest =>
    if c == '+' || c == '-' then
      if filled then some ([], c :: rest)
      else if signed then none
      else (exponent true filled rest).map fun (more, rest) => (c :: more, rest)
    else if isDigitPart c then
      (exponent signed (filled || c.isDigit) rest).map fun (more, rest) => (c :: more, rest)
    else if filled then some ([], c :: rest)
    else none
  | _, filled, [] => if filled then some ([], []) else none

/-- Reads a number that has a point or an exponent. A point before another point or before
a word does not belong to the number. -/
def decimal (cs : List Char) : Option (List Char × List Char) :=
  let (whole, rest) := cs.span isDigitPart
  if !cs.head?.any Char.isDigit then none
  else match rest with
    | '.' :: rest =>
      if rest.head?.any fun c => c == '.' || isIdentStart c then none
      else
        let (places, rest) := rest.span isDigitPart
        let front := whole ++ '.' :: places
        match rest with
        | c :: behind =>
          if isExponentMark c then
            match exponent false false behind with
            | some (found, rest) => some (front ++ c :: found, rest)
            | none => some (front, c :: behind)
          else some (front, c :: behind)
        | [] => some (front, [])
    | c :: behind =>
      if isExponentMark c then
        (exponent false false behind).map fun (found, rest) => (whole ++ c :: found, rest)
      else none
    | [] => none

/-- The base that a number announces, and what stands behind the announcement. -/
def splitBase : List Char → Nat × List Char
  | '0' :: 'x' :: rest => (16, rest)
  | '0' :: 'o' :: rest => (8, rest)
  | '0' :: 'b' :: rest => (2, rest)
  | cs => (10, cs)

/-- The value of a digit of some base. -/
def digit? (c : Char) : Option Nat :=
  if c.isDigit then some (c.toNat - '0'.toNat)
  else if 'a' ≤ c && c ≤ 'f' then some (c.toNat - 'a'.toNat + 10)
  else if 'A' ≤ c && c ≤ 'F' then some (c.toNat - 'A'.toNat + 10)
  else none

/-- Reads the digits of a whole number; `filled` if there has been one. A decimal digit that
is too large for the base is an error, a letter that is too large ends the digits. -/
def wholeDigits (base : Nat) : (filled : Bool) → List Char → Option (List Char × List Char)
  | filled, c :: rest =>
    let more (filled : Bool) :=
      (wholeDigits base filled rest).map fun (more, rest) => (c :: more, rest)
    let stop : Option (List Char × List Char) := if filled then some ([], c :: rest) else none
    if c == '_' then if !filled && base = 10 then none else more filled
    else match digit? c with
      | some d =>
        if d < base then more true
        else if c.isDigit then none
        else stop
      | none => stop
  | filled, [] => if filled then some ([], []) else none

/-- Reads a whole number. -/
def whole (cs : List Char) : Option (List Char × List Char) :=
  let (base, rest) := splitBase cs
  (wholeDigits base false rest).map fun (found, rest) =>
    (cs.take (cs.length - (found.length + rest.length)) ++ found, rest)

/-- What follows the mark of an exponent makes it one: digits, then the end or a suffix. A
sign there cannot belong to a whole number either. -/
def isExponent : (filled : Bool) → List Char → Bool
  | filled, c :: rest =>
    if c == '_' then isExponent filled rest
    else if c == '-' || c == '+' then true
    else if c.isDigit then isExponent true rest
    else filled
  | filled, [] => filled

/-- The value of a whole number, and its suffix. None if the number is not whole. -/
def wholeValue (base : Nat) : (value? : Option Nat) → List Char → Option (Nat × List Char)
  | value?, c :: rest =>
    if c == '_' then wholeValue base value? rest
    else if c == '.' && base = 10 then none
    else if isExponentMark c && base = 10 then
      if isExponent false rest then none else value?.map (·, c :: rest)
    else match digit? c with
      | some d =>
        if d < base then wholeValue base (some (base * value?.getD 0 + d)) rest
        else if c.isDigit || 10 < base then none
        else value?.map (·, c :: rest)
      | none => value?.map (·, c :: rest)
  | value?, [] => value?.map (·, [])

/-- The literal that the characters of a number stand for. -/
def numberOf (written : List Char) : Literal :=
  let (base, rest) := splitBase written
  match wholeValue base none rest with
  | some (value, suffix) => .integer (toString value) (String.ofList suffix)
  | none => .float (String.ofList written)

/-- Reads a number with its suffix. No further character of a word may follow. -/
def number (cs : List Char) : Option (Literal × List Char) := do
  let (front, rest) ← decimal cs <|> whole cs
  let (suffix, rest) := (word rest).getD ([], rest)
  if rest.head?.any isIdentContinue then none
  else return (numberOf (front ++ suffix), rest)

/-- Reads a whole number without suffix that can be the position of a component. -/
def position? (cs : List Char) : Option Nat := do
  let (found, rest) ← number cs
  match found, rest with
  | .integer digits "", [] =>
    let value ← digits.toNat?
    if value < Nat.pow 2 32 then some value else none
  | _, _ => none

end RouteSurvey.Source.Lexer
