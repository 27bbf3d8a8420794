import RouteSurvey.Data.Yaml.Tag

/-! # Scalars

Reading the text of scalars. Line breaks inside a scalar are folded: a single one counts
as a blank, and of several the first is dropped. Only literal block scalars keep them.
-/

namespace RouteSurvey.Data.Yaml

/-- The blanks and line breaks between two words of a scalar. -/
structure Gap where
  /-- A line break came before; from then on blanks do not count -/
  crossed : Bool := false
  blanks : List Char := []
  firstBreak : List Char := []
  laterBreaks : List Char := []

namespace Gap

/-- Line breaks after folding. -/
def fold (firstBreak laterBreaks : List Char) : List Char :=
  if firstBreak == ['\n'] then
    if laterBreaks.isEmpty then [' '] else laterBreaks
  else firstBreak ++ laterBreaks

/-- What a gap counts as in the text. -/
def text (gap : Gap) : List Char :=
  if gap.crossed then fold gap.firstBreak gap.laterBreaks else gap.blanks

/-- Adds a line break. -/
def crossBreak (gap : Gap) (found : List Char) : Gap :=
  if gap.crossed then { gap with laterBreaks := gap.laterBreaks ++ found }
  else { gap with crossed := true, firstBreak := found }

/-- Reads on to the next word. On a later line no tab may stand before column `indent`. -/
def read (indent : Nat) : (fuel : Nat) → Gap → Cursor → Option (Gap × Cursor)
  | 0, gap, cursor => some (gap, cursor)
  | fuel + 1, gap, cursor =>
    match cursor.peek? with
    | none => some (gap, cursor)
    | some c =>
      if isBlank c then
        if gap.crossed then
          if c == '\t' && cursor.column < indent then none
          else read indent fuel gap (cursor.skip 1)
        else read indent fuel { gap with blanks := gap.blanks ++ [c] } (cursor.skip 1)
      else if isBreak c then
        read indent fuel (gap.crossBreak cursor.takeBreak.1) cursor.takeBreak.2
      else some (gap, cursor)

end Gap

/-! ## Plain scalars -/

namespace Plain

/-- The characters that structure flow collections. -/
def isFlowMark (c : Char) : Bool :=
  c == ',' || c == '[' || c == ']' || c == '{' || c == '}'

/-- Takes the characters of a word. In a flow collection a colon must not stand before a
character of its structure. -/
def word (inFlow : Bool) : List Char → Option (List Char)
  | [] => some []
  | c :: rest =>
    if isBlank c || isBreak c then some []
    else if inFlow && c == ':' && rest.head?.any (fun d => isFlowMark d || d == '?') then none
    else if (c == ':' && endsWord rest.head?) || (inFlow && isFlowMark c) then some []
    else (word inFlow rest).map (c :: ·)

/-- Reads words and the gaps between them. `found` holds the pieces so far, latest first,
and `gap` is what stands before the cursor. The last gap is no part of the text. -/
def words (inFlow : Bool) (indent : Nat) :
    (fuel : Nat) → (found : List (List Char)) → Gap → Cursor →
      Option (List (List Char) × Bool × Cursor)
  | 0, _, _, _ => none
  | fuel + 1, found, gap, cursor => do
    if cursor.isAtMarker || cursor.peek? == some '#' then return (found, gap.crossed, cursor)
    let next ← word inFlow cursor.rest
    if next.isEmpty then return (found, gap.crossed, cursor)
    let found := next :: gap.text :: found
    let cursor := cursor.skip next.length
    match cursor.peek? with
    | none => return (found, false, cursor)
    | some c =>
      if isBlank c || isBreak c then
        let (gap, cursor) ← Gap.read indent cursor.rest.length {} cursor
        if !inFlow && cursor.column < indent then return (found, gap.crossed, cursor)
        else words inFlow indent fuel found gap cursor
      else return (found, false, cursor)

/-- Reads a plain scalar, and tells whether it ended behind a line break. -/
def read (inFlow : Bool) (indent : Nat) (cursor : Cursor) : Option (String × Bool × Cursor) := do
  let (found, crossed, cursor) ← words inFlow indent (cursor.rest.length + 1) [] {} cursor
  return (String.ofList found.reverse.flatten, crossed, cursor)

end Plain

/-! ## Quoted scalars -/

namespace Quoted

/-- The characters that stand behind a backslash for one character. -/
def simpleEscape? : Char → Option Char
  | '0' => some '\x00'
  | 'a' => some '\x07'
  | 'b' => some '\x08'
  | 't' => some '\t'
  | '\t' => some '\t'
  | 'n' => some '\n'
  | 'v' => some '\x0B'
  | 'f' => some '\x0C'
  | 'r' => some '\r'
  | 'e' => some '\x1B'
  | ' ' => some ' '
  | '"' => some '"'
  | '/' => some '/'
  | '\\' => some '\\'
  | 'N' => some '\x85'
  | '_' => some '\xA0'
  | 'L' => some '\u2028'
  | 'P' => some '\u2029'
  | _ => none

/-- The number of digits behind an escape that gives a code point. -/
def digitCount? : Char → Option Nat
  | 'x' => some 2
  | 'u' => some 4
  | 'U' => some 8
  | _ => none

/-- The code point written by hexadecimal digits. -/
def codePoint? (digits : List Char) : Option Nat :=
  digits.foldlM (fun n c => (hexDigit? c).map (16 * n + ·)) 0

/-- Reads an escape behind its backslash: its character, and how many characters it takes. -/
def escape? (cs : List Char) : Option (Char × Nat) :=
  match cs with
  | [] => none
  | c :: rest =>
    match digitCount? c with
    | some count => do
      if rest.length < count then none
      let n ← codePoint? (rest.take count)
      if n.isValidChar then some (Char.ofNat n, count + 1) else none
    | none => (simpleEscape? c).map (·, 1)

/-- Reads up to a blank, a line break or the closing quote. The flag tells whether the word
ended in an escaped line break. -/
def word (single : Bool) : (fuel : Nat) → Cursor → Option (List Char × Bool × Cursor)
  | 0, cursor => some ([], false, cursor)
  | fuel + 1, cursor =>
    match cursor.rest with
    | [] => some ([], false, cursor)
    | c :: rest =>
      if isBlank c || isBreak c then some ([], false, cursor)
      else if single && c == '\'' then
        if rest.head? == some '\'' then do
          let (more, escaped, cursor) ← word single fuel (cursor.skip 2)
          return ('\'' :: more, escaped, cursor)
        else some ([], false, cursor)
      else if !single && c == '"' then some ([], false, cursor)
      else if !single && c == '\\' then
        if rest.head?.any isBreak then some ([], true, (cursor.skip 1).nextLine)
        else do
          let (found, length) ← escape? rest
          let (more, escaped, cursor) ← word single fuel (cursor.skip (length + 1))
          return (found :: more, escaped, cursor)
      else do
        let (more, escaped, cursor) ← word single fuel (cursor.skip 1)
        return (c :: more, escaped, cursor)

/-- Reads words and gaps up to the closing quote. -/
def words (single : Bool) :
    (fuel : Nat) → (found : List (List Char)) → Cursor → Option (List (List Char) × Cursor)
  | 0, _, _ => none
  | fuel + 1, found, cursor => do
    if cursor.isAtMarker then none
    let (next, escaped, cursor) ← word single cursor.rest.length cursor
    match cursor.peek? with
    | none => none
    | some c =>
      if c == (if single then '\'' else '"') then return (next :: found, cursor.skip 1)
      else
        let (gap, cursor) ← Gap.read 0 cursor.rest.length { crossed := escaped } cursor
        words single fuel (gap.text :: next :: found) cursor

/-- Reads a quoted scalar behind its opening quote. -/
def read (single : Bool) (cursor : Cursor) : Option (String × Cursor) := do
  let (found, cursor) ← words single (2 * cursor.rest.length + 2) [] cursor
  return (String.ofList found.reverse.flatten, cursor)

end Quoted

/-! ## Block scalars -/

namespace Block

/-- What becomes of the line breaks at the end. -/
inductive Chomping where
  | strip | clip | keep
deriving DecidableEq

/-- The chomping a sign asks for. -/
def Chomping.ofSign? : Char → Option Chomping
  | '+' => some keep
  | '-' => some strip
  | _ => none

/-- Reads a sign, if there is one. -/
def sign? (cursor : Cursor) : Option Chomping × Cursor :=
  match cursor.peek?.bind Chomping.ofSign? with
  | some found => (some found, cursor.skip 1)
  | none => (none, cursor)

/-- Reads an indentation, if there is one. It must not be zero. -/
def indentation (cursor : Cursor) : Option (Option Nat × Cursor) :=
  match cursor.peek? with
  | some c =>
    if c == '0' then none
    else if c.isDigit then some (some (c.toNat - '0'.toNat), cursor.skip 1)
    else some (none, cursor)
  | none => some (none, cursor)

/-- Reads the sign and the indentation, in either order. -/
def header (cursor : Cursor) : Option (Chomping × Option Nat × Cursor) := do
  match sign? cursor with
  | (some chomping, cursor) =>
    let (indent?, cursor) ← indentation cursor
    return (chomping, indent?, cursor)
  | (none, cursor) =>
    let (indent?, cursor) ← indentation cursor
    match indent?, sign? cursor with
    | some indent, (found?, cursor) => return (found?.getD .clip, some indent, cursor)
    | none, _ => return (.clip, none, cursor)

/-- Reads empty lines and the indentation of the line after them: the breaks, and the
deepest column met. With an indentation of zero all spaces count as indentation. -/
def emptyLines (indent : Nat) :
    (fuel : Nat) → (breaks : List Char) → (deepest : Nat) → Cursor →
      Option (List Char × Nat × Cursor)
  | 0, _, _, _ => none
  | fuel + 1, breaks, deepest, cursor =>
    let spaces := (cursor.rest.takeWhile (· == ' ')).length
    let count := if indent = 0 then spaces else min spaces (indent - cursor.column)
    let cursor := cursor.skip count
    let deepest := max deepest cursor.column
    match cursor.peek? with
    | none => some (breaks, deepest, cursor)
    | some c =>
      if c == '\t' && (indent = 0 || cursor.column < indent) then none
      else if isBreak c then
        emptyLines indent fuel (breaks ++ cursor.takeBreak.1) deepest cursor.takeBreak.2
      else some (breaks, deepest, cursor)

/-- What has been read of a block scalar. -/
structure Progress where
  /-- The pieces of text, latest first -/
  found : List (List Char) := []
  /-- The break of the last line -/
  lastBreak : List Char := []
  /-- The empty lines after it -/
  emptyLines : List Char := []
  /-- The last line began with a blank -/
  blankBefore : Bool := false

/-- The breaks before a line, which are folded between two lines without leading blanks. -/
def Progress.joint (progress : Progress) (folded blankHere : Bool) : List Char :=
  if folded && progress.lastBreak == ['\n'] && !progress.blankBefore && !blankHere then
    if progress.emptyLines.isEmpty then [' '] else progress.emptyLines
  else progress.lastBreak ++ progress.emptyLines

/-- Reads the lines that have the indentation. -/
def lines (folded : Bool) (indent : Nat) :
    (fuel : Nat) → Progress → Cursor → Option (Progress × Cursor)
  | 0, _, _ => none
  | fuel + 1, progress, cursor =>
    match cursor.peek? with
    | none => some (progress, cursor)
    | some c =>
      if cursor.column ≠ indent then some (progress, cursor)
      else do
        let (text, cursor) := cursor.takeWhile (!isBreak ·)
        let (lastBreak, cursor) := cursor.takeBreak
        let (empty, _, cursor) ← emptyLines indent (cursor.rest.length + 1) [] 0 cursor
        lines folded indent fuel
          { found := text :: progress.joint folded (isBlank c) :: progress.found
            lastBreak := lastBreak
            emptyLines := empty
            blankBefore := isBlank c } cursor

/-- The text of a block scalar. -/
def Progress.text (progress : Progress) (chomping : Chomping) : List Char :=
  progress.found.reverse.flatten ++
    (match chomping with
      | .strip => []
      | .clip => progress.lastBreak
      | .keep => progress.lastBreak ++ progress.emptyLines)

/-- Reads a block scalar behind its indicator. `parent?` is the indentation around it. -/
def read (folded : Bool) (parent? : Option Nat) (cursor : Cursor) : Option (String × Cursor) := do
  let (chomping, given?, cursor) ← header cursor
  let cursor ← cursor.finishLine
  let given := given?.elim 0 (parent?.getD 0 + ·)
  let (empty, deepest, cursor) ← emptyLines given (cursor.rest.length + 1) [] 0 cursor
  let least := parent?.elim 1 (· + 1)
  let indent := if given = 0 then max deepest least else given
  let (progress, cursor) ←
    lines folded indent (cursor.rest.length + 1) { emptyLines := empty } cursor
  return (String.ofList (progress.text chomping), cursor)

end Block

end RouteSurvey.Data.Yaml
