import RouteSurvey.Data.Yaml.Cursor

/-! # Tags

Reading tags, tag handles and directives. A tag is a handle and a suffix; the handle is
empty when the suffix is the whole tag.
-/

namespace RouteSurvey.Data.Yaml

/-- The value of a hexadecimal digit. -/
def hexDigit? (c : Char) : Option Nat :=
  if '0' ≤ c && c ≤ '9' then some (c.toNat - '0'.toNat)
  else if 'a' ≤ c && c ≤ 'f' then some (c.toNat - 'a'.toNat + 10)
  else if 'A' ≤ c && c ≤ 'F' then some (c.toNat - 'A'.toNat + 10)
  else none

namespace Tag

/-- A character that may stand in a tag as it is. -/
def isPlain (c : Char) : Bool :=
  isWord c || ";/?:@&=+$.!~*'()".toList.contains c

/-- A character that may stand in a tag between angle brackets, or as the target of a
handle. -/
def isEnclosed (c : Char) : Bool :=
  isPlain c || c == ',' || c == '[' || c == ']'

/-- Reads an octet written as a percent sign and two digits. -/
def octet : List Char → Option (Nat × List Char)
  | '%' :: high :: low :: rest => do return (16 * (← hexDigit? high) + (← hexDigit? low), rest)
  | _ => none

/-- Reads the octets that continue a character; each adds six bits. -/
def continuation : (count value : Nat) → List Char → Option (Nat × List Char)
  | 0, value, cs => some (value, cs)
  | count + 1, value, cs => do
    let (n, rest) ← octet cs
    if n / 0x40 ≠ 2 then none
    else continuation count (value * 0x40 + n % 0x40) rest

/-- Reads a character written as octets of its UTF-8 form. -/
def escaped (cs : List Char) : Option (Char × List Char) := do
  let (n, rest) ← octet cs
  let (value, rest) ←
    if n < 0x80 then some (n, rest)
    else if n / 0x20 = 6 then continuation 1 (n % 0x20) rest
    else if n / 0x10 = 14 then continuation 2 (n % 0x10) rest
    else if n / 0x08 = 30 then continuation 3 (n % 0x08) rest
    else none
  return (if value.isValidChar then Char.ofNat value else '\uFFFD', rest)

/-- Reads the characters of a tag that satisfy `p`, or are written as octets. -/
def characters (p : Char → Bool) : (fuel : Nat) → List Char → Option (List Char × List Char)
  | 0, cs => some ([], cs)
  | fuel + 1, cs =>
    match cs with
    | '%' :: _ => do
      let (c, rest) ← escaped cs
      let (more, rest) ← characters p fuel rest
      return (c :: more, rest)
    | c :: rest =>
      if p c then do
        let (more, rest) ← characters p fuel rest
        return (c :: more, rest)
      else some ([], cs)
    | [] => some ([], cs)

/-- Reads a run of tag characters. -/
def run (p : Char → Bool) (cursor : Cursor) : Option (List Char × Cursor) := do
  let (found, rest) ← characters p cursor.rest.length cursor.rest
  return (found, cursor.skip (cursor.rest.length - rest.length))

/-- Reads a handle: an exclamation mark, then a word and another mark if they are there.
The mark alone and the mark with a word but without the second mark come out as they are. -/
def handle (cursor : Cursor) : Option (List Char × Cursor) :=
  if cursor.peek? ≠ some '!' then none
  else
    let (word, cursor) := (cursor.skip 1).takeWhile isWord
    if cursor.peek? == some '!' then some ('!' :: word ++ ['!'], cursor.skip 1)
    else some ('!' :: word, cursor)

/-- Reads a tag in angle brackets. -/
def verbatim (cursor : Cursor) : Option (List Char × Cursor) := do
  let (found, cursor) ← run isEnclosed cursor
  if found.isEmpty || cursor.peek? ≠ some '>' then none
  else some (found, cursor.skip 1)

/-- Reads a tag by its handle and suffix. Without a second exclamation mark the handle is
the mark alone, and what stands behind it belongs to the suffix. -/
def shorthand (cursor : Cursor) : Option ((List Char × List Char) × Cursor) := do
  let (front, cursor) ← handle cursor
  let (back, cursor) ← run isPlain cursor
  if 1 < front.length && front.getLast? == some '!' then
    if back.isEmpty then none else some ((front, back), cursor)
  else
    let suffix := front.drop 1 ++ back
    some (if suffix.isEmpty then ([], ['!']) else (['!'], suffix), cursor)

/-- Reads a tag. It ends at a blank or a line break, or inside a flow collection also at a
comma. -/
def read (inFlow : Bool) (cursor : Cursor) : Option ((String × String) × Cursor) := do
  let ((front, back), cursor) ←
    if cursor.peekAt? 1 == some '<' then
      (verbatim (cursor.skip 2)).map fun (found, cursor) => (([], found), cursor)
    else shorthand cursor
  if endsWord cursor.peek? || (inFlow && cursor.peek? == some ',') then
    some ((String.ofList front, String.ofList back), cursor)
  else none

end Tag

end RouteSurvey.Data.Yaml
