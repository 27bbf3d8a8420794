import RouteSurvey.Source.Item

/-! # Parsers of tokens

Parsers read tokens from the front and note the items they come across. A parser that
fails leaves nothing behind, so that another one can be tried. No parser puts tokens back:
this is part of what a parser is.
-/

namespace RouteSurvey.Source

/-- The tokens still to be read, and the items found so far, latest first. -/
structure ParserState where
  rest : List Token
  found : List Item := []

/-- A parser. -/
structure Parser (α : Type) where
  run : ParserState → Option (α × ParserState)
  /-- What is left is the end of what there was -/
  rest_suffix : ∀ {before after : ParserState} {result : α},
    run before = some (result, after) → after.rest <:+ before.rest

namespace Next

/-! ## Tests on the next tokens -/

/-- The tokens begin with the marks of an operator. All but the last have to be joined to
the next; behind the last further marks may follow. -/
def marks : (operator : List Char) → List Token → Bool
  | [], _ => true
  | [c], .punct d _ :: _ => c == d
  | c :: more, .punct d true :: rest => c == d && marks more rest
  | _, _ => false

/-- The tokens begin with an operator. -/
def mark (operator : String) (tokens : List Token) : Bool :=
  marks operator.toList tokens

/-- The next token is the given word. -/
def word (text : String) : List Token → Bool
  | .ident name :: _ => name.text == text
  | _ => false

/-- The next token is one of the given words. -/
def wordIn (texts : List String) : List Token → Bool
  | .ident name :: _ => texts.contains name.text
  | _ => false

/-- The next token is an identifier that is no keyword. -/
def name : List Token → Bool
  | .ident name :: _ => name.isName
  | _ => false

/-- The next token is an identifier or a keyword. -/
def anyWord : List Token → Bool
  | .ident _ :: _ => true
  | _ => false

/-- The next token is a lifetime. -/
def lifetime : List Token → Bool
  | .lifetime :: _ => true
  | _ => false

/-- The next token is a group in the given brackets. -/
def group (delimiter : Delimiter) : List Token → Bool
  | .group found _ :: _ => found = delimiter
  | _ => false

/-- The literal at the front, if there is one: a literal token, one of the two truth values,
or a number behind a minus sign. -/
def literal? : List Token → Option (Literal × List Token)
  | .literal value :: rest => some (value, rest)
  | .ident name :: rest =>
    if name.text == "true" then some (.flag true, rest)
    else if name.text == "false" then some (.flag false, rest)
    else none
  | .punct '-' _ :: .literal (.integer digits suffix) :: rest =>
    some (.integer ("-" ++ digits) suffix, rest)
  | .punct '-' _ :: .literal (.float written) :: rest => some (.float ("-" ++ written), rest)
  | _ => none

theorem suffix_of_literal? {tokens rest : List Token} {found : Literal}
    (hfound : literal? tokens = some (found, rest)) : rest <:+ tokens := by
  unfold literal? at hfound
  split at hfound
  next =>
    cases hfound
    exact List.suffix_cons _ _
  next =>
    split at hfound
    · cases hfound
      exact List.suffix_cons _ _
    · split at hfound <;> cases hfound
      exact List.suffix_cons _ _
  next =>
    cases hfound
    exact (List.suffix_cons _ _).trans (List.suffix_cons _ _)
  next =>
    cases hfound
    exact (List.suffix_cons _ _).trans (List.suffix_cons _ _)
  next => cases hfound

/-- A literal begins here. -/
def literal (tokens : List Token) : Bool :=
  (literal? tokens).isSome

/-- The next token is a literal text. -/
def text : List Token → Bool
  | .literal (.text _) :: _ => true
  | _ => false

/-- There is no further token. -/
def nothing (tokens : List Token) : Bool :=
  tokens.isEmpty

end Next

namespace Parser

variable {α β : Type}

/-! ## Steps -/

/-- Reads nothing. The result, and the items that have been found, follow from the state. -/
def look (f : ParserState → α × List Item) : Parser α where
  run state := some ((f state).1, { state with found := (f state).2 })
  rest_suffix hrun := by
    cases hrun
    exact List.suffix_rfl

/-- Runs a parser, and then one that depends on its result. -/
def andThen (parser : Parser α) (more : α → Parser β) : Parser β where
  run state := (parser.run state).bind fun (result, middle) => (more result).run middle
  rest_suffix hrun := by
    obtain ⟨⟨result, middle⟩, hfirst, hmore⟩ := Option.bind_eq_some_iff.mp hrun
    exact ((more result).rest_suffix hmore).trans (parser.rest_suffix hfirst)

instance : Monad Parser where
  pure result := look fun state => (result, state.found)
  bind := andThen

/-- Runs a parser, or another one if it fails. -/
def orElse (parser : Parser α) (other : Unit → Parser α) : Parser α where
  run state :=
    match parser.run state with
    | some result => some result
    | none => (other ()).run state
  rest_suffix hrun := by
    split at hrun
    next hfirst =>
      cases hrun
      exact parser.rest_suffix hfirst
    next => exact (other ()).rest_suffix hrun

instance : Alternative Parser where
  failure := ⟨fun _ => none, nofun⟩
  orElse := orElse

instance : MonadLift Option Parser where
  monadLift result? := result?.elim failure pure

/-- A parser that is only made when it runs. -/
def delayed (parser : Unit → Parser α) : Parser α where
  run state := (parser ()).run state
  rest_suffix hrun := (parser ()).rest_suffix hrun

/-- The tokens still to be read. -/
def rest : Parser (List Token) :=
  look fun state => (state.rest, state.found)

/-- Tests the tokens still to be read. -/
def next (p : List Token → Bool) : Parser Bool :=
  return p (← rest)

/-- Skips some tokens. -/
def skip (count : Nat) : Parser Unit where
  run state := some ((), { state with rest := state.rest.drop count })
  rest_suffix hrun := by
    cases hrun
    exact List.drop_suffix count _

/-- Fails unless the tokens pass a test. -/
def expect (p : List Token → Bool) : Parser Unit := do
  if !(← next p) then failure

/-- Fails if the tokens pass a test. -/
def refuse (p : List Token → Bool) : Parser Unit := do
  if ← next p then failure

/-- Reads an operator. -/
def mark (operator : String) : Parser Unit := do
  expect (Next.mark operator)
  skip operator.length

/-- Reads an operator if it stands there, and tells whether it did. -/
def mark? (operator : String) : Parser Bool := do
  if ← next (Next.mark operator) then
    skip operator.length
    return true
  else return false

/-- Runs a parser if a condition holds; otherwise the answer is no. -/
def provided (condition : Bool) (parser : Parser Bool) : Parser Bool :=
  if condition then parser else return false

/-- Reads the given word. -/
def word (text : String) : Parser Unit := do
  expect (Next.word text)
  skip 1

/-- Reads the given word if it stands there, and tells whether it did. -/
def word? (text : String) : Parser Bool := do
  if ← next (Next.word text) then
    skip 1
    return true
  else return false

/-- Reads an identifier or a keyword. -/
def anyWord : Parser Ident := do
  match ← rest with
  | .ident found :: _ =>
    skip 1
    return found
  | _ => failure

/-- Reads an identifier that is no keyword. -/
def name : Parser Ident := do
  expect Next.name
  anyWord

/-- Reads a lifetime. -/
def lifetime : Parser Unit := do
  expect Next.lifetime
  skip 1

/-- Reads a lifetime if one stands there. -/
def lifetime? : Parser Unit := do
  if ← next Next.lifetime then skip 1

/-- Reads a literal. -/
def literal : Parser Literal where
  run state := (Next.literal? state.rest).map fun (found, rest) =>
    (found, { state with rest := rest })
  rest_suffix hrun := by
    obtain ⟨⟨found, rest⟩, hfound, heq⟩ := Option.map_eq_some_iff.mp hrun
    cases heq
    exact Next.suffix_of_literal? hfound

/-- Reads a group in any brackets, without looking inside. -/
def anyGroup : Parser (Delimiter × List Token) := do
  match ← rest with
  | .group delimiter inner :: _ =>
    skip 1
    return (delimiter, inner)
  | _ => failure

/-- Runs a parser on tokens apart from the others. It need not read them all. -/
def within (tokens : List Token) (parser : Parser α) : Parser (α × List Token) where
  run outer := (parser.run { outer with rest := tokens }).map fun (result, inner) =>
    ((result, inner.rest), { inner with rest := outer.rest })
  rest_suffix hrun := by
    obtain ⟨_, -, heq⟩ := Option.map_eq_some_iff.mp hrun
    cases heq
    exact List.suffix_rfl

/-- Runs a parser on all of some tokens. -/
def wholly (tokens : List Token) (parser : Parser α) : Parser α := do
  let (result, left) ← within tokens parser
  if left.isEmpty then return result else failure

/-- Reads a group in the given brackets, all of whose tokens the parser has to read. -/
def group (delimiter : Delimiter) (parser : Parser α) : Parser α := do
  let (found, inner) ← anyGroup
  if found = delimiter then wholly inner parser else failure

/-- The tokens that a parser would leave if it ran here. -/
def behind? (parser : Parser α) : Parser (Option (List Token)) :=
  look fun state => ((parser.run state).map (·.2.rest), state.found)

/-- Sees whether a parser would succeed here. -/
def canRead (parser : Parser α) : Parser Bool :=
  return (← behind? parser).isSome

/-- Runs a parser if possible; otherwise nothing is read. -/
def attempt (parser : Parser α) : Parser (Option α) :=
  (some <$> parser) <|> pure none

/-- Notes items in order. -/
def noteAll (items : List Item) : Parser Unit :=
  look fun state => ((), items.reverse ++ state.found)

/-- Notes an item. -/
def note (item : Item) : Parser Unit :=
  noteAll [item]

/-- Runs a parser and takes away the items it came across, in order. -/
def gather (parser : Parser α) : Parser (α × List Item) where
  run outer := (parser.run { outer with found := [] }).map fun (result, inner) =>
    ((result, inner.found.reverse), { inner with found := outer.found })
  rest_suffix hrun := by
    obtain ⟨⟨result, inner⟩, hinner, heq⟩ := Option.map_eq_some_iff.mp hrun
    have hsuffix := parser.rest_suffix hinner
    cases heq
    exact hsuffix

/-- Runs a parser and forgets the items it came across. -/
def ignoringItems (parser : Parser α) : Parser α := do
  return (← gather parser).1

/-- Reads items while a test holds; each has to read something. -/
def whileAux (p : List Token → Bool) (item : Parser α) : (fuel : Nat) → Parser (List α)
  | 0 => failure
  | fuel + 1 => do
    if ← next p then
      let found ← item
      return found :: (← whileAux p item fuel)
    else return []

/-- Reads items while a test on the next tokens holds. -/
def manyWhile (p : List Token → Bool) (item : Parser α) : Parser (List α) := do
  whileAux p item ((← rest).length + 1)

/-- Reads items up to the end of the tokens. -/
def many (item : Parser α) : Parser (List α) :=
  manyWhile (!Next.nothing ·) item

/-- Reads items and separators until a test holds; it may hold behind a separator. -/
def separatedAux (isEnd : List Token → Bool) (separator : Parser Unit) (item : Parser α) :
    (fuel : Nat) → Parser (List α)
  | 0 => failure
  | fuel + 1 => do
    if ← next isEnd then return []
    let found ← item
    if ← next isEnd then return [found]
    separator
    return found :: (← separatedAux isEnd separator item fuel)

/-- Reads items with an operator between each two until a test holds. -/
def separated (isEnd : List Token → Bool) (operator : String) (item : Parser α) :
    Parser (List α) := do
  separatedAux isEnd (mark operator) item ((← rest).length + 1)

/-- Reads all tokens as items between commas; a comma may stand at the end. -/
def list (item : Parser α) : Parser (List α) :=
  separated Next.nothing "," item

/-- Reads items for as long as an operator joins them, or until a test holds. -/
def joinedAux (isEnd : List Token → Bool) (operator : String) (item : Parser α) :
    (fuel : Nat) → Parser (List α)
  | 0 => failure
  | fuel + 1 => do
    if ← next isEnd then return []
    let found ← item
    if ← mark? operator then return found :: (← joinedAux isEnd operator item fuel)
    else return [found]

/-- Reads items joined by an operator; a test on the next tokens may end them early. -/
def joined (isEnd : List Token → Bool) (operator : String) (item : Parser α) :
    Parser (List α) := do
  joinedAux isEnd operator item ((← rest).length + 1)

end Parser

end RouteSurvey.Source
