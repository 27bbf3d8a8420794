import RouteSurvey.Source.Grammar.Function

/-! # Items

The items of files, modules, traits and implementations.
-/

namespace RouteSurvey.Source.Grammar

open RouteSurvey.Source.Parser

variable (g : Grammar)

/-- How an item that has been read counts. -/
inductive ItemForm where
  | item (found : Item)
  /-- By the items inside it -/
  | walked
  /-- As an item into which nobody looks -/
  | closed

/-- An item counts by the items inside it if a condition holds. -/
def ItemForm.walkedIf (condition : Bool) : ItemForm :=
  if condition then walked else closed

/-! ## Common parts -/

/-- Who may use an item; tells whether nothing is said about it. Parentheses that do not
restrict it are left alone. -/
def visibility : Parser Bool := do
  if !(← word? "pub") then return true
  match ← rest with
  | .group .paren [.ident name] :: _ =>
    if ["crate", "self", "super"].contains name.text then skip 1
  | .group .paren inner :: _ =>
    if Next.word "in" inner then
      skip 1
      wholly inner do
        word "in"
        let _ ← plainPath
  | _ => pure ()
  return false

/-- A name, or an underscore in its place. -/
def nameOrHole : Parser Ident := do
  expect fun tokens => Next.name tokens || Next.word "_" tokens
  anyWord

/-- A name and the parameters in angle brackets behind it; tells whether there are any. -/
def genericName : Parser (Ident × Bool) := do
  return (← name, ← generics g)

/-- An invocation can begin here. -/
def Next.invocation (tokens : List Token) : Bool :=
  Next.name tokens || Next.wordIn ["self", "super", "crate"] tokens || Next.mark "::" tokens

/-- An invocation among items. In some places it may give a name. -/
def invocation (named : Bool) : Parser Unit := do
  let _ ← plainPath
  mark "!"
  if named && (← next fun tokens => Next.word "try" tokens || Next.name tokens) then skip 1
  let (delimiter, _) ← anyGroup
  if delimiter ≠ .brace then mark ";"

/-- A constant behind its first word; tells whether it has a value, and neither parameters
nor conditions. -/
def constant : Parser Bool := do
  let _ ← nameOrHole
  let hasParameters ← generics g
  mark ":"
  let _ ← g.type true
  let hasValue ← mark? "="
  if hasValue then
    let _ ← g.expr true
  let hasConditions ← conditions g
  mark ";"
  return hasValue && !hasParameters && !hasConditions

/-- Where the conditions of a type alias may stand. -/
inductive ConditionPlace where
  | before | after | anywhere
deriving DecidableEq

/-- A type alias; tells whether it has bounds, and whether it has a type. -/
def typeAlias (place : ConditionPlace) : Parser (Bool × Bool) := do
  word "type"
  let _ ← genericName g
  let ((hasBounds, hasType, hasConditions), inner) ← gather do
    let hasBounds ← mark? ":"
    if hasBounds then
      let isEnd (tokens : List Token) : Bool :=
        Next.word "where" tokens || Next.mark "=" tokens || Next.mark ";" tokens
      let _ ← separated isEnd "+" (g.bound false true)
    let hasConditions ← if place = .after then pure false else conditions g
    let hasType ← mark? "="
    if hasType then
      let _ ← g.type true
    return (hasBounds, hasType, hasConditions)
  if place ≠ .before && !hasConditions then
    let _ ← conditions g
  noteAll inner
  mark ";"
  return (hasBounds, hasType)

/-- A function behind its attributes; tells whether it has a body. Items come in the order
of attributes, signature and statements. -/
def function (safe : Bool) : Parser Bool := do
  let (_, first) ← gather (signature g safe)
  if ← mark? ";" then
    noteAll first
    return false
  else
    group .brace do
      let _ ← innerAttributes g
      noteAll first
      statements g
    return true

/-! ## Data -/

/-- A field with a name, or with a hole in its place. -/
def namedField : (fuel : Nat) → Parser FieldDecl
  | 0 => failure
  | fuel + 1 => do
    let attributes ← outerAttributes g
    let _ ← visibility
    let found ← nameOrHole
    mark ":"
    let isNested (tokens : List Token) : Bool := found.text == "_" &&
      (Next.word "struct" tokens ||
        (Next.word "union" tokens && Next.group .brace (tokens.drop 1)))
    if ← next isNested then
      skip 1
      let _ ← group .brace (list (namedField fuel))
      return ⟨attributes, found, .other⟩
    else return ⟨attributes, found, (← g.type true).type⟩

/-- Fields with names, in braces. -/
def namedFields : Parser (List FieldDecl) := do
  let fuel := Token.totalSize (← rest)
  group .brace (list (namedField g fuel))

/-- Fields without names, in parentheses. -/
def unnamedFields : Parser Unit := do
  let _ ← group .paren <| list do
    let _ ← outerAttributes g
    let _ ← visibility
    g.type true

/-- The fields of a struct; none if they have no names. Conditions stand before named fields
and behind unnamed ones. -/
def structFields : Parser (List FieldDecl) := do
  let hasConditions ← conditions g
  if !hasConditions && (← next (Next.group .paren)) then
    unnamedFields g
    let _ ← conditions g
    mark ";"
    return []
  else if ← next (Next.group .brace) then namedFields g
  else
    mark ";"
    return []

/-- A variant of an enumeration. -/
def variant : Parser Unit := do
  let _ ← outerAttributes g
  let _ ← visibility
  let _ ← name
  if ← next (Next.group .brace) then
    let _ ← namedFields g
  else if ← next (Next.group .paren) then unnamedFields g
  if ← mark? "=" then
    let _ ← g.expr true

/-! ## Items of traits and implementations -/

/-- An item of a trait behind its attributes. -/
def traitItemForm : Parser ItemForm := do
  let isInherited ← visibility
  let hasDefault ← word? "default"
  let isPlain := isInherited && !hasDefault
  if ← beginsFunction false then
    let _ ← function g false
    return .walkedIf isPlain
  else if ← word? "const" then return .walkedIf ((← constantWithin) && isPlain)
  else if ← next (Next.word "type") then
    let _ ← typeAlias g .after
    return .walkedIf isPlain
  else if isPlain && (← next Next.invocation) then
    invocation false
    return .walked
  else failure
where
  /-- Tells whether the constant has neither parameters nor conditions. -/
  constantWithin : Parser Bool := do
    let _ ← nameOrHole
    let hasParameters ← generics g
    mark ":"
    let _ ← g.type true
    if ← mark? "=" then
      let _ ← g.expr true
    let hasConditions ← conditions g
    mark ";"
    return !hasParameters && !hasConditions

/-- An item outside of the current list of items, whose inner items count according to its
form. -/
def noting (form : Parser ItemForm) : Parser Unit := do
  let (found, inner) ← gather do
    let _ ← outerAttributes g
    form
  if found matches .walked then noteAll inner

/-- An item of an implementation; the method if it is one with a body. -/
def implementationItem : Parser (Option MethodDecl) := do
  let attributes ← outerAttributes g
  let isInherited ← visibility
  let hasDefault ← next fun tokens =>
    Next.word "default" tokens && !Next.mark "!" (tokens.drop 1)
  if hasDefault then skip 1
  if ← beginsFunction false then
    let found ← signature g false
    if ← mark? ";" then return none
    let inner ← functionBody g
    return some ⟨attributes ++ inner, found.name, found.arguments, found.output?⟩
  else if ← word? "const" then
    let _ ← constant g
    return none
  else if ← next (Next.word "type") then
    let _ ← typeAlias g .after
    return none
  else if isInherited && !hasDefault && (← next Next.invocation) then
    invocation false
    return none
  else failure

/-- An item that is defined elsewhere, behind its attributes. -/
def foreignItemForm : Parser ItemForm := do
  let isInherited ← visibility
  let isStatic (tokens : List Token) : Bool :=
    Next.word "static" tokens ||
      (Next.wordIn ["unsafe", "safe"] tokens && Next.word "static" (tokens.drop 1))
  if ← beginsFunction true then
    let isSafe ← canRead do
      let _ ← word? "const"
      let _ ← word? "async"
      word "safe"
    let hasBody ← function g true
    return .walkedIf (!hasBody && !isSafe)
  else if ← next isStatic then
    let isMarked ← next (Next.wordIn ["unsafe", "safe"])
    if isMarked then skip 1
    word "static"
    let _ ← word? "mut"
    let _ ← name
    mark ":"
    let _ ← g.type true
    let hasValue ← mark? "="
    if hasValue then
      let _ ← g.expr true
    mark ";"
    return .walkedIf (!isMarked && !hasValue)
  else if ← next (Next.word "type") then
    let (hasBounds, hasType) ← typeAlias g .anywhere
    return .walkedIf (!hasBounds && !hasType)
  else if isInherited && (← next Next.invocation) then
    invocation false
    return .walked
  else failure

/-! ## Items of modules -/

/-- What is imported, behind a path. Only some paths in braces may be absolute. -/
def importTree : (fuel : Nat) → (root : Bool) → Parser Unit
  | 0, _ => failure
  | fuel + 1, root => do
    if ← next fun tokens =>
        Next.name tokens || Next.wordIn ["self", "super", "crate", "try"] tokens then
      skip 1
      if ← mark? "::" then importTree fuel false
      else if ← word? "as" then
        let _ ← nameOrHole
    else if ← mark? "*" then return
    else
      let _ ← group .brace <| list do
        let isAbsolute ← if root then mark? "::" else pure false
        importTree fuel (root && !isAbsolute)

/-- An import. -/
def importItem : Parser ItemForm := do
  word "use"
  let isAbsolute ← mark? "::"
  importTree (Token.totalSize (← rest) + 1) (!isAbsolute)
  mark ";"
  return .walked

/-- A variable of the module. -/
def staticItem : Parser ItemForm := do
  word "static"
  let _ ← word? "mut"
  let _ ← name
  let hasType ← mark? ":"
  if hasType then
    let _ ← g.type true
    if ← mark? ";" then return .closed
  mark "="
  let _ ← g.expr true
  mark ";"
  return .walkedIf hasType

/-- A package that is linked. -/
def linkedPackage : Parser ItemForm := do
  word "extern"
  word "crate"
  if !(← word? "self") then
    let _ ← name
  if ← word? "as" then
    let _ ← nameOrHole
  mark ";"
  return .walked

/-- Items that are defined elsewhere. -/
def foreignItems : Parser ItemForm := do
  let _ ← word? "unsafe"
  expect (Next.word "extern")
  callingConvention
  group .brace do
    let _ ← innerAttributes g
    let _ ← many (noting g (foreignItemForm g))
  return .walked

/-- An item. -/
def itemBody : Parser Item := do
  let (attributes, header) ← gather (outerAttributes g)
  g.itemAfter attributes header

/-- A module. Only one whose items stand inside it counts. -/
def moduleItem (header : List Item) : Parser ItemForm := do
  let _ ← word? "unsafe"
  word "mod"
  let found ← if ← next (Next.word "try") then anyWord else name
  if ← mark? ";" then return .closed
  else
    let (inner, items) ← group .brace do
      let (_, inner) ← gather (innerAttributes g)
      return (inner, ← many (itemBody g))
    return .item (.module found (header ++ inner ++ items))

/-- A trait, or another name for bounds. Items in conditions come before those in bounds. -/
def traitItem : Parser ItemForm := do
  let isUnsafe ← word? "unsafe"
  let isAuto ← word? "auto"
  word "trait"
  let _ ← genericName g
  let bounds (isEnd : List Token → Bool) : Parser (List Item) := do
    return (← gather (separated isEnd "+" (g.bound false true))).2
  if ← provided (!isUnsafe && !isAuto) (mark? "=") then
    let inner ← bounds fun tokens => Next.word "where" tokens || Next.mark ";" tokens
    let _ ← conditions g
    noteAll inner
    mark ";"
  else
    let inner ← if ← mark? ":" then
        bounds fun tokens => Next.word "where" tokens || Next.group .brace tokens
      else pure []
    let _ ← conditions g
    noteAll inner
    group .brace do
      let _ ← innerAttributes g
      let _ ← many (noting g (traitItemForm g))
  return .walked

/-- Parameters in angle brackets begin here, and not a qualified path. -/
def Next.parameters (tokens : List Token) : Bool :=
  let second := tokens.drop 1
  let third := tokens.drop 2
  Next.mark "<" tokens &&
    (Next.mark ">" second || Next.mark "#" second ||
      ((Next.lifetime second || Next.name second) &&
        ((Next.mark ":" third && !Next.mark "::" third) || Next.mark "," third ||
          Next.mark ">" third || Next.mark "=" third)) ||
      Next.word "const" second)

/-- An implementation. Only one that belongs to no trait counts, and neither may it be
marked as visible or constant. -/
def implementation (attributes : List Attribute) (isInherited : Bool) : Parser ItemForm := do
  let _ ← word? "default"
  let _ ← word? "unsafe"
  word "impl"
  if ← next Next.parameters then
    let _ ← generics g
  let isConstant ← next fun tokens =>
    Next.word "const" tokens || (Next.mark "?" tokens && Next.word "const" (tokens.drop 1))
  if isConstant then
    let _ ← mark? "?"
    word "const"
  let isNegative ← next fun tokens =>
    Next.mark "!" tokens && !Next.group .brace (tokens.drop 1)
  if isNegative then mark "!"
  let first ← g.type true
  let isForTrait ← word? "for"
  if isForTrait then
    let _ ← g.type true
  let _ ← conditions g
  let (inner, items) ← group .brace do
    return (← innerAttributes g, ← many (implementationItem g))
  if isForTrait || isConstant || !isInherited then return .closed
  else
    let self := if isNegative then .other else first.type
    return .item (.methods (attributes ++ inner) self (items.filterMap id))

/-- A definition of an invocation. -/
def invocationDefinition : Parser ItemForm := do
  word "macro"
  let _ ← name
  if ← next (Next.group .paren) then skip 1
  expect (Next.group .brace)
  skip 1
  return .closed

/-- An item behind its attributes. -/
def itemForm (attributes : List Attribute) (header : List Item) : Parser ItemForm := do
  let isInherited ← visibility
  let isFunction ← beginsFunction false
  let tokens ← rest
  let second := tokens.drop 1
  if isFunction then return .walkedIf (← function g false)
  else if Next.word "extern" tokens then
    if Next.word "crate" second then linkedPackage else foreignItems g
  else if Next.word "use" tokens then importItem
  else if Next.word "static" tokens then staticItem g
  else if ← word? "const" then return .walkedIf (← constant g)
  else if Next.word "unsafe" tokens then
    if Next.word "trait" second ||
        (Next.word "auto" second && Next.word "trait" (tokens.drop 2)) then traitItem g
    else if Next.word "impl" second then implementation g attributes isInherited
    else if Next.word "extern" second then foreignItems g
    else moduleItem g header
  else if Next.word "mod" tokens then moduleItem g header
  else if Next.word "type" tokens then
    let (hasBounds, hasType) ← typeAlias g .before
    return .walkedIf (hasType && !hasBounds)
  else if ← word? "struct" then
    let (found, _) ← genericName g
    return .item (.struct attributes found (← structFields g))
  else if ← word? "enum" then
    let _ ← genericName g
    let _ ← conditions g
    let _ ← group .brace (list (variant g))
    return .walked
  else if Next.word "union" tokens && Next.name second then
    skip 1
    let _ ← genericName g
    let _ ← conditions g
    let _ ← namedFields g
    return .walked
  else if Next.word "trait" tokens || (Next.word "auto" tokens && Next.word "trait" second) then
    traitItem g
  else if Next.word "impl" tokens || (Next.word "default" tokens && !Next.mark "!" second) then
    implementation g attributes isInherited
  else if Next.word "macro" tokens then invocationDefinition
  else if isInherited && Next.invocation tokens then
    invocation true
    return .walked
  else failure

/-- An item behind its attributes; `header` are the items in these. -/
def itemAfterBody (attributes : List Attribute) (header : List Item) : Parser Item := do
  let (form, inner) ← gather (itemForm g attributes header)
  return match form with
    | .item found => found
    | .walked => .other (header ++ inner)
    | .closed => .other []

end RouteSurvey.Source.Grammar
