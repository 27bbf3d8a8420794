/-! # Cursors

A place in a YAML text: what is left of it, and where that begins. Lines and columns
matter because indentation and line breaks carry meaning.
-/

namespace RouteSurvey.Data.Yaml

/-- A space or a tab. -/
def isBlank (c : Char) : Bool :=
  c == ' ' || c == '\t'

/-- A line break. -/
def isBreak (c : Char) : Bool :=
  c == '\n' || c == '\r' || c == '\x85' || c == '\u2028' || c == '\u2029'

/-- A character of names: a letter, a digit, an underscore or a hyphen. -/
def isWord (c : Char) : Bool :=
  c.isAlphanum || c == '_' || c == '-'

/-- A place where a word ends: a blank, a line break or the end of the text. -/
def endsWord (found? : Option Char) : Bool :=
  found?.all fun c => isBlank c || isBreak c

/-- A line break as it counts in text: the two Unicode separators stand for themselves,
all others for a line feed. -/
def breakText (c : Char) : Char :=
  if c == '\u2028' || c == '\u2029' then c else '\n'

/-- A place in a text. -/
structure Cursor where
  rest : List Char
  /-- The number of characters before the place -/
  index : Nat := 0
  line : Nat := 0
  column : Nat := 0
deriving Inhabited

namespace Cursor

/-- The next character. -/
def peek? (cursor : Cursor) : Option Char :=
  cursor.rest.head?

/-- The character that many places ahead. -/
def peekAt? (cursor : Cursor) (distance : Nat) : Option Char :=
  cursor.rest[distance]?

/-- Moves on within the line. -/
def skip (cursor : Cursor) (count : Nat) : Cursor :=
  { cursor with
    rest := cursor.rest.drop count
    index := cursor.index + count
    column := cursor.column + count }

/-- Moves on past a line break. A carriage return and a line feed are one break. -/
def nextLine (cursor : Cursor) : Cursor :=
  match cursor.rest with
  | '\r' :: '\n' :: rest => ⟨rest, cursor.index + 2, cursor.line + 1, 0⟩
  | _ :: rest => ⟨rest, cursor.index + 1, cursor.line + 1, 0⟩
  | [] => cursor

/-- Takes the characters up to the first that does not satisfy `p`, within the line. -/
def takeWhile (cursor : Cursor) (p : Char → Bool) : List Char × Cursor :=
  let found := cursor.rest.takeWhile p
  (found, cursor.skip found.length)

/-- Moves past blanks. -/
def skipBlanks (cursor : Cursor) : Cursor :=
  (cursor.takeWhile isBlank).2

/-- Moves past a comment to the end of its line. -/
def skipComment (cursor : Cursor) : Cursor :=
  if cursor.peek? == some '#' then (cursor.takeWhile (!isBreak ·)).2 else cursor

/-- Takes the line break at the cursor, if there is one. -/
def takeBreak (cursor : Cursor) : List Char × Cursor :=
  match cursor.peek? with
  | some c => if isBreak c then ([breakText c], cursor.nextLine) else ([], cursor)
  | none => ([], cursor)

/-- Moves past blanks and a comment to the end of the line and past its break; none if
something else stands there. -/
def finishLine (cursor : Cursor) : Option Cursor :=
  let cursor := cursor.skipBlanks.skipComment
  match cursor.peek? with
  | none => some cursor
  | some c => if isBreak c then some cursor.nextLine else none

/-- Three equal characters begin a line and end a word there. -/
def isMarker (cursor : Cursor) (c : Char) : Bool :=
  cursor.column == 0 && [c, c, c].isPrefixOf cursor.rest && endsWord (cursor.peekAt? 3)

/-- The cursor is at a line that begins or ends a document. -/
def isAtMarker (cursor : Cursor) : Bool :=
  cursor.isMarker '-' || cursor.isMarker '.'

end Cursor

end RouteSurvey.Data.Yaml
