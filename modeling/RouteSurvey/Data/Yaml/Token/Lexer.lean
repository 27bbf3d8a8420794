import RouteSurvey.Data.Yaml.Scalar
import RouteSurvey.Data.Yaml.Token

/-! # Reading tokens

Splits a YAML text into tokens. Whether a word is a key shows only at the colon behind it,
so the place of the latest possible key is kept for every open collection, and the tokens
that announce the key are put there afterwards.
-/

namespace RouteSurvey.Data.Yaml

/-- A place where a key may have begun. -/
structure KeyPlace where
  /-- Nothing but a key may stand there -/
  required : Bool
  /-- The number of tokens before it -/
  position : Nat
  index : Nat
  line : Nat
  column : Nat

/-- The state of reading tokens. -/
structure Lexer where
  cursor : Cursor
  /-- The tokens so far, latest first -/
  tokens : List Token := []
  /-- The columns of the open block collections, innermost first -/
  indents : List Nat := []
  /-- The possible key of the innermost collection -/
  key? : Option KeyPlace := none
  /-- The possible keys around the open flow collections -/
  outerKeys : List (Option KeyPlace) := []
  /-- A key may begin at the next token -/
  keyAllowed : Bool := true

namespace Lexer

/-- Reading is inside a flow collection. -/
def inFlow (lexer : Lexer) : Bool :=
  !lexer.outerKeys.isEmpty

/-- The column of the innermost block collection. -/
def indent? (lexer : Lexer) : Option Nat :=
  lexer.indents.head?

/-- Adds a token. -/
def push (lexer : Lexer) (token : Token) : Lexer :=
  { lexer with tokens := token :: lexer.tokens }

/-- Puts a token behind the first `position` ones. -/
def insert (lexer : Lexer) (position : Nat) (token : Token) : Lexer :=
  let later := lexer.tokens.length - position
  { lexer with tokens := lexer.tokens.take later ++ token :: lexer.tokens.drop later }

/-- Moves on by some characters. -/
def skip (lexer : Lexer) (count : Nat) : Lexer :=
  { lexer with cursor := lexer.cursor.skip count }

/-- Opens a block collection at a deeper column. -/
def openBlock (lexer : Lexer) (column position : Nat) (token : Token) : Lexer :=
  if lexer.inFlow || lexer.indent?.any (column ≤ ·) then lexer
  else { lexer.insert position token with indents := column :: lexer.indents }

/-- Closes the block collections of the given columns. -/
def closeAll (lexer : Lexer) : (indents : List Nat) → (stay : Nat → Bool) → Lexer
  | [], _ => { lexer with indents := [] }
  | column :: rest, stay =>
    if stay column then { lexer with indents := column :: rest }
    else (lexer.push .blockEnd).closeAll rest stay

/-- Closes the block collections that are deeper than a column; without one, all. -/
def closeBlocks (lexer : Lexer) (column? : Option Nat) : Lexer :=
  if lexer.inFlow then lexer
  else lexer.closeAll lexer.indents fun indent => column?.any (indent ≤ ·)

/-- A key has to end on the line where it begins, after at most 1024 characters. -/
def isStale (lexer : Lexer) (key : KeyPlace) : Bool :=
  key.line < lexer.cursor.line || key.index + 1024 < lexer.cursor.index

/-- A possible key that is still possible; none instead of a required key that is not. -/
def refresh (lexer : Lexer) : Option KeyPlace → Option (Option KeyPlace)
  | none => some none
  | some key =>
    if !lexer.isStale key then some (some key)
    else if key.required then none
    else some none

/-- Forgets the keys that have become impossible. -/
def dropStaleKeys (lexer : Lexer) : Option Lexer := do
  return { lexer with
    key? := ← lexer.refresh lexer.key?
    outerKeys := ← lexer.outerKeys.mapM lexer.refresh }

/-- Forgets the possible key of the innermost collection. -/
def dropKey (lexer : Lexer) : Option Lexer :=
  if lexer.key?.any (·.required) then none else some { lexer with key? := none }

/-- Notes that a key may begin here. -/
def noteKey (lexer : Lexer) : Option Lexer :=
  if lexer.keyAllowed then do
    let lexer ← lexer.dropKey
    let cursor := lexer.cursor
    return { lexer with
      key? := some {
        required := !lexer.inFlow && lexer.indent? == some cursor.column
        position := lexer.tokens.length
        index := cursor.index
        line := cursor.line
        column := cursor.column } }
  else some lexer

/-- Moves to the next token, past blanks, comments and line breaks. A tab does not count
as a blank where a key of a block collection may begin. -/
def toNextToken : (fuel : Nat) → Lexer → Lexer
  | 0, lexer => lexer
  | fuel + 1, lexer =>
    let tabs := lexer.inFlow || !lexer.keyAllowed
    let cursor := (lexer.cursor.takeWhile fun c => c == ' ' || (tabs && c == '\t')).2.skipComment
    match cursor.peek? with
    | none => { lexer with cursor := cursor }
    | some c =>
      if isBreak c then
        toNextToken fuel { lexer with
          cursor := cursor.nextLine
          keyAllowed := lexer.keyAllowed || !lexer.inFlow }
      else { lexer with cursor := cursor }

/-- Reads a version number of at most nine digits. -/
def versionNumber (cursor : Cursor) : Option (Nat × Cursor) :=
  let (digits, cursor) := cursor.takeWhile Char.isDigit
  if digits.isEmpty || 9 < digits.length then none
  else some (digits.foldl (fun n c => 10 * n + (c.toNat - '0'.toNat)) 0, cursor)

/-- Reads a directive behind its percent sign. -/
def directive (cursor : Cursor) : Option (Token × Cursor) := do
  let (name, cursor) := cursor.takeWhile isWord
  if !endsWord cursor.peek? then none
  let cursor := cursor.skipBlanks
  if String.ofList name == "YAML" then
    let (major, cursor) ← versionNumber cursor
    if cursor.peek? ≠ some '.' then none
    let (minor, cursor) ← versionNumber (cursor.skip 1)
    return (.version major minor, ← cursor.finishLine)
  else if String.ofList name == "TAG" then
    let (handle, cursor) ← Tag.handle cursor
    if handle ≠ ['!'] && (handle.length < 2 || handle.getLast? ≠ some '!') then none
    if !cursor.peek?.any isBlank then none
    let (target, cursor) ← Tag.run Tag.isEnclosed cursor.skipBlanks
    if target.isEmpty || !endsWord cursor.peek? then none
    return (.handle (String.ofList handle) (String.ofList target), ← cursor.finishLine)
  else none

/-- Reads the name of an anchor or an alias. -/
def anchorName (cursor : Cursor) : Option (String × Cursor) :=
  let (name, cursor) := cursor.takeWhile isWord
  if name.isEmpty then none
  else if endsWord cursor.peek? || cursor.peek?.any ("?:,]\x7d%@`".toList.contains ·) then
    some (String.ofList name, cursor)
  else none

/-- Begins a flow collection. -/
def openFlow (lexer : Lexer) (token : Token) : Option Lexer := do
  let lexer ← lexer.noteKey
  return { (lexer.push token).skip 1 with
    key? := none
    outerKeys := lexer.key? :: lexer.outerKeys
    keyAllowed := true }

/-- Ends a flow collection. -/
def closeFlow (lexer : Lexer) (token : Token) : Option Lexer := do
  let lexer ← lexer.dropKey
  let lexer := { (lexer.push token).skip 1 with keyAllowed := false }
  match lexer.outerKeys with
  | key? :: rest => return { lexer with key? := key?, outerKeys := rest }
  | [] => return lexer

/-- Reads the indicator of a list item. In a block context it may open the list. -/
def blockEntry (lexer : Lexer) : Option Lexer := do
  if !lexer.inFlow && !lexer.keyAllowed then none
  let lexer := lexer.openBlock lexer.cursor.column lexer.tokens.length .blockListStart
  let lexer ← lexer.dropKey
  return { (lexer.push .blockEntry).skip 1 with keyAllowed := true }

/-- Reads the indicator of a key. In a block context it may open the record. -/
def complexKey (lexer : Lexer) : Option Lexer := do
  if !lexer.inFlow && !lexer.keyAllowed then none
  let lexer := lexer.openBlock lexer.cursor.column lexer.tokens.length .blockRecordStart
  let lexer ← lexer.dropKey
  return { (lexer.push .key).skip 1 with keyAllowed := !lexer.inFlow }

/-- Reads the indicator of a value. If a key may have begun earlier, it did. -/
def value (lexer : Lexer) : Option Lexer :=
  match lexer.key? with
  | some key =>
    let lexer :=
      (lexer.insert key.position .key).openBlock key.column key.position .blockRecordStart
    some { (lexer.push .value).skip 1 with key? := none, keyAllowed := false }
  | none => do
    if !lexer.inFlow && !lexer.keyAllowed then none
    let lexer := lexer.openBlock lexer.cursor.column lexer.tokens.length .blockRecordStart
    return { (lexer.push .value).skip 1 with keyAllowed := !lexer.inFlow }

/-- Adds a token that was read up to a cursor. A key may have begun with it. -/
def word (lexer : Lexer) (token : Token) (cursor : Cursor) : Option Lexer := do
  let lexer ← lexer.noteKey
  return { lexer.push token with cursor := cursor, keyAllowed := false }

/-- Reads a plain scalar. Behind a line break a key may begin. -/
def plain (lexer : Lexer) : Option Lexer := do
  let (text, crossed, cursor) ←
    Plain.read lexer.inFlow (lexer.indent?.elim 0 (· + 1)) lexer.cursor
  return { ← lexer.word (.scalar text .plain) cursor with keyAllowed := crossed }

/-- Reads a block scalar. -/
def block (lexer : Lexer) (style : Style) : Option Lexer := do
  let lexer ← lexer.dropKey
  let (text, cursor) ← Block.read (style == .folded) lexer.indent? (lexer.cursor.skip 1)
  return { lexer.push (.scalar text style) with cursor := cursor, keyAllowed := true }

/-- Reads a token that stands alone in a block context: a directive or a document marker. -/
def standAlone (lexer : Lexer) (token : Token) (cursor : Cursor) : Option Lexer := do
  let lexer ← (lexer.closeBlocks none).dropKey
  return { lexer.push token with cursor := cursor, keyAllowed := false }

/-- Indicators that cannot begin a plain scalar without further ado. -/
def isIndicator (c : Char) : Bool :=
  "-?:,[]\x7b\x7d#&*!|>'\"%@`".toList.contains c

/-- A plain scalar begins with the given character, which stands before `next?`. -/
def beginsPlain (lexer : Lexer) (c : Char) (next? : Option Char) : Bool :=
  !(isBlank c || isBreak c || isIndicator c) ||
    (c == '-' && !next?.any isBlank) ||
    (!lexer.inFlow && (c == '?' || c == ':') && !endsWord next?)

/-- Reads the token that begins with `c` at the cursor. -/
def token (lexer : Lexer) (c : Char) : Option Lexer :=
  let cursor := lexer.cursor
  let next? := cursor.peekAt? 1
  if cursor.column == 0 && c == '%' then do
    let (token, cursor) ← directive (cursor.skip 1)
    lexer.standAlone token cursor
  else if cursor.isMarker '-' then lexer.standAlone .documentStart (cursor.skip 3)
  else if cursor.isMarker '.' then lexer.standAlone .documentEnd (cursor.skip 3)
  else if c == '[' then lexer.openFlow .flowListStart
  else if c == '{' then lexer.openFlow .flowRecordStart
  else if c == ']' then lexer.closeFlow .flowListEnd
  else if c == '}' then lexer.closeFlow .flowRecordEnd
  else if c == ',' then do
    return { ((← lexer.dropKey).push .flowEntry).skip 1 with keyAllowed := true }
  else if c == '-' && endsWord next? then lexer.blockEntry
  else if c == '?' && (lexer.inFlow || endsWord next?) then lexer.complexKey
  else if c == ':' && (lexer.inFlow || endsWord next?) then lexer.value
  else if c == '*' then do
    let (name, cursor) ← anchorName (cursor.skip 1)
    lexer.word (.reference name) cursor
  else if c == '&' then do
    let (name, cursor) ← anchorName (cursor.skip 1)
    lexer.word (.anchor name) cursor
  else if c == '!' then do
    let ((handle, suffix), cursor) ← Tag.read lexer.inFlow cursor
    lexer.word (.tag handle suffix) cursor
  else if c == '|' && !lexer.inFlow then lexer.block .literal
  else if c == '>' && !lexer.inFlow then lexer.block .folded
  else if c == '\'' || c == '"' then do
    let (text, cursor) ← Quoted.read (c == '\'') (cursor.skip 1)
    lexer.word (.scalar text .quoted) cursor
  else if lexer.beginsPlain c next? then lexer.plain
  else none

/-- Reads tokens up to the end of the text. -/
def run : (fuel : Nat) → Lexer → Option (List Token)
  | 0, _ => none
  | fuel + 1, lexer => do
    let lexer ← (toNextToken (lexer.cursor.rest.length + 1) lexer).dropStaleKeys
    match lexer.cursor.peek? with
    | none => return (← (lexer.closeBlocks none).dropKey).tokens.reverse
    | some c =>
      let lexer := lexer.closeBlocks (some lexer.cursor.column)
      run fuel (← lexer.token c)

end Lexer

namespace Token

/-- A character that may stand in a text. -/
def isPermitted (c : Char) : Bool :=
  let n := c.toNat
  n = 0x09 || n = 0x0A || n = 0x0D || (0x20 ≤ n && n ≤ 0x7E) || n = 0x85 ||
    (0xA0 ≤ n && n ≤ 0xFFFD) || 0x10000 ≤ n

/-- Reads a text as tokens. A byte order mark at the beginning takes up a column. -/
def scan? (text : String) : Option (List Token) :=
  let cs := text.toList
  if cs.all isPermitted then
    let start : Cursor := ⟨cs, 0, 0, 0⟩
    let cursor := if start.peek? == some '\uFEFF' then start.skip 1 else start
    Lexer.run (cs.length + 2) { cursor := cursor }
  else none

end Token

end RouteSurvey.Data.Yaml
