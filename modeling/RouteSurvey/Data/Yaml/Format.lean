import RouteSurvey.Data.Format
import RouteSurvey.Data.Yaml.Node.Grammar
import RouteSurvey.Data.Yaml.Token.Lexer

/-! # The readings of YAML

Where a certain kind of value is expected, a scalar is read as that kind from its source
text. Elsewhere a plain scalar is what it looks like: null, a flag, a number, or text.
-/

namespace RouteSurvey.Data.Yaml

namespace Resolve

/-- The words for null. -/
def isNull (text : String) : Bool :=
  text == "null" || text == "Null" || text == "NULL" || text == "~"

/-- The words for flags. -/
def flag? (text : String) : Option Bool :=
  if text == "true" || text == "True" || text == "TRUE" then some true
  else if text == "false" || text == "False" || text == "FALSE" then some false
  else none

/-- The value of digits in a base; none for no digits. -/
def digitsIn? (base : Nat) (cs : List Char) : Option Nat :=
  if cs.isEmpty then none
  else cs.foldlM (fun n c => do
    let d ← hexDigit? c
    if d < base then some (base * n + d) else none) 0

/-- More than one digit, the first being a zero: no number, whatever its sign. -/
def hasLeadingZero (cs : List Char) : Bool :=
  match cs with
  | '0' :: rest => !rest.isEmpty && rest.all Char.isDigit
  | _ => false

/-- The value of an integer without sign. -/
def magnitude? : List Char → Option Nat
  | '0' :: 'x' :: rest => digitsIn? 16 rest
  | '0' :: 'o' :: rest => digitsIn? 8 rest
  | '0' :: 'b' :: rest => digitsIn? 2 rest
  | cs => if hasLeadingZero cs then none else digitsIn? 10 cs

/-- Reads an integer. Whole numbers below 2 to the 64th are indices; integers that need
more than 64 bits, but at most 128, cannot be read. -/
def integer? (cs : List Char) : Option Datum :=
  match cs with
  | '-' :: rest => do
    let n ← magnitude? rest
    if n ≤ Nat.pow 2 63 then some (.number none)
    else if n ≤ Nat.pow 2 127 then some .unreadable
    else none
  | cs => do
    let n ← magnitude? (if cs.head? == some '+' then cs.drop 1 else cs)
    if n < Nat.pow 2 64 then some (.number (some n))
    else if n < Nat.pow 2 128 then some .unreadable
    else none

/-- The exponent at the end of a decimal, if it is one. -/
def exponent? : List Char → Option Int
  | [] => some 0
  | e :: rest =>
    if e == 'e' || e == 'E' then
      match rest with
      | '-' :: digits => (digitsIn? 10 digits).map fun n => -(n : Int)
      | '+' :: digits => (digitsIn? 10 digits).map Int.ofNat
      | digits => (digitsIn? 10 digits).map Int.ofNat
    else none

/-- A decimal number without sign that double precision can hold. -/
def isDecimal (cs : List Char) : Bool :=
  let (whole, rest) := cs.span Char.isDigit
  let (places, rest) := match rest with
    | '.' :: rest => rest.span Char.isDigit
    | rest => ([], rest)
  match exponent? rest with
  | some tens =>
    !(whole ++ places).isEmpty && !Decimal.overflows (whole ++ places) (tens - places.length)
  | none => false

/-- A decimal number, or one of the words for infinity and for no number. -/
def isFloat (text : String) : Bool :=
  let cs := text.toList
  let unsigned := match cs with
    | '+' :: rest => if rest.head?.any fun c => c == '+' || c == '-' then [] else rest
    | '-' :: rest => rest
    | cs => cs
  isDecimal unsigned ||
    [".inf", ".Inf", ".INF"].contains (String.ofList unsigned) ||
    [".nan", ".NaN", ".NAN"].contains text

/-- What a plain scalar looks like. -/
def plain (text : String) : Datum :=
  let cs := text.toList
  let unsigned := if cs.head?.any fun c => c == '+' || c == '-' then cs.drop 1 else cs
  if text.isEmpty || isNull text then .null
  else match flag? text with
    | some value => .flag value
    | none =>
      match integer? cs with
      | some found => found
      | none => if !hasLeadingZero unsigned && isFloat text then .number none else .text text

/-- The tag belongs to the document itself. Values with such a tag are variants of
something, which nothing here is. -/
def isLocal (tag? : Option String) : Bool :=
  tag?.any (·.toList.head? == some '!')

/-- The tags of flags, integers, floating point numbers and null. -/
def flagTag : String := "tag:yaml.org,2002:bool"

/-- The tag of integers. -/
def integerTag : String := "tag:yaml.org,2002:int"

/-- The tag of floating point numbers. -/
def floatTag : String := "tag:yaml.org,2002:float"

/-- The tag of null. -/
def nullTag : String := "tag:yaml.org,2002:null"

/-- What a scalar is. A tag of one of the kinds has to fit; with another tag it is text. -/
def scalar (tag? : Option String) (text : String) (style : Style) : Datum :=
  match tag? with
  | none => if style == .plain then plain text else .text text
  | some tag =>
    if isLocal tag? then .unreadable
    else if tag == flagTag then (flag? text).elim .unreadable .flag
    else if tag == integerTag then (integer? text.toList).getD .unreadable
    else if tag == floatTag then if isFloat text then .number none else .unreadable
    else if tag == nullTag then if isNull text then .null else .unreadable
    else .text text

end Resolve

/-- A node, and how many collections may still be opened at it. -/
structure Site where
  node : Node Nat
  room : Nat

/-- The number of collections that may stand inside each other. -/
def nestingLimit : Nat := 128

/-- Reading counts the aliases it follows. -/
abbrev Reading : Type → Type := StateT Nat Option

namespace Document

variable (document : Document)

/-- The number of aliases that may be followed. -/
def aliasLimit : Nat :=
  100 * document.root.size

/-- The node an alias stands for; any other node stands for itself. -/
def follow (node : Node Nat) : Reading (Node Nat) :=
  match node with
  | .reference target => do
    let count ← get
    set (count + 1)
    if document.aliasLimit < count + 1 then failure
    match document.targets.lookup target with
    | some found => return found
    | none => failure
  | node => return node

/-- What a node is by itself, with everything in it. -/
def datum : (room : Nat) → Node Nat → Reading Datum
  | room, node => do
    match ← document.follow node with
    | .reference _ => failure
    | .scalar _ tag? text style =>
      let found := Resolve.scalar tag? text style
      if found.isReadable then return found else failure
    | .list _ tag? items =>
      if Resolve.isLocal tag? then failure
      match room with
      | 0 => failure
      | room + 1 => return .list (← items.mapM (datum room))
    | .record _ tag? entries =>
      if Resolve.isLocal tag? then failure
      match room with
      | 0 => failure
      | room + 1 =>
        return .record (← entries.mapM fun (key, value) => do
          return (← datum room key, ← datum room value))

/-- The text of a scalar. -/
def text (node : Node Nat) : Reading String := do
  match ← document.follow node with
  | .scalar _ _ text _ => return text
  | _ => failure

/-- The flag a scalar spells. It has to be plain, or a literal block tagged as a flag. -/
def flag (node : Node Nat) : Reading Bool := do
  match ← document.follow node with
  | .scalar _ tag? text style =>
    if style == .plain || (style == .literal && tag? == some Resolve.flagTag) then
      Format.need (Resolve.flag? text)
    else failure
  | _ => failure

/-- A value left out, which counts as an empty collection. -/
def isLeftOut (node : Node Nat) : Bool :=
  match node with
  | .scalar _ _ text style => text.isEmpty && style == .plain
  | _ => false

/-- The items of a list. -/
def items (site : Site) : Reading (List Site) := do
  match ← document.follow site.node, site.room with
  | .list _ _ items, room + 1 => return items.map fun item => ⟨item, room⟩
  | node, _ => if isLeftOut node then return [] else failure

/-- The entries of a record, whose keys have to be scalars. -/
def entries (site : Site) : Reading (List (String × Site)) := do
  match ← document.follow site.node, site.room with
  | .record _ _ entries, room + 1 =>
    entries.mapM fun (key, value) => return (← document.text key, ⟨value, room⟩)
  | node, _ => if isLeftOut node then return [] else failure

/-- The value at a site, unless it is null. A plain scalar tagged as null has to be null. -/
def optional (site : Site) : Reading (Option Site) := do
  match ← document.follow site.node with
  | .scalar anchor? tag? text style =>
    let present := some ⟨.scalar anchor? tag? text style, site.room⟩
    if style ≠ .plain then return present
    else match tag? with
      | some tag =>
        if tag ≠ Resolve.nullTag then return present
        else if Resolve.isNull text then return none
        else failure
      | none => return if text.isEmpty || Resolve.isNull text then none else present
  | node => return some ⟨node, site.room⟩

/-- The readings of a YAML document. A record may not be written as a list. -/
def format : Format Site Reading where
  text site := document.text site.node
  flag site := document.flag site.node
  list := document.items
  record _ := document.entries
  dictionary := document.entries
  optional := document.optional
  datum site := document.datum site.room site.node

/-- Reads a document with a decoder for any format. -/
def decode {α : Type} (read : Format Site Reading → Site → Reading α) : Option α :=
  ((read document.format ⟨document.root, nestingLimit⟩).run 0).map (·.1)

end Document

/-- Reads a text as a document. -/
def Document.read? (text : String) : Option Document := do
  Document.ofTokens? (← Token.scan? text)

end RouteSurvey.Data.Yaml
