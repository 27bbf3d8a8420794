import RouteSurvey.Data.Yaml.Node

/-! # Reading nodes

Puts tokens together to the document they spell. A text holds at most one document.
-/

namespace RouteSurvey.Data.Yaml

/-- The targets of tag handles. -/
abbrev Handles : Type := List (String × String)

/-- The handles that are there without a directive. -/
def Handles.standard : Handles :=
  [("!", "!"), ("!!", "tag:yaml.org,2002:")]

/-- The tag a handle and a suffix spell; a suffix without handle is the tag. -/
def Handles.tag? (handles : Handles) (handle suffix : String) : Option String :=
  if handle.isEmpty then some suffix else (handles.lookup handle).map (· ++ suffix)

/-- The next token is one of those. -/
def isNext (p : Token → Bool) (tokens : List Token) : Bool :=
  tokens.head?.any p

/-- Reads a node unless one of the stopping tokens shows that it is left out. -/
def unlessAt {α : Type} (stops : List Token)
    (read : List Token → Option (Node α × List Token)) (tokens : List Token) :
    Option (Node α × List Token) :=
  if isNext (stops.contains ·) tokens then some (.empty, tokens) else read tokens

namespace Node

/-- Reads the anchor and the tag of a node, in either order. -/
def properties (handles : Handles) :
    List Token → Option (Option String × Option String × List Token)
  | .anchor name :: .tag handle suffix :: rest => do
    return (some name, some (← handles.tag? handle suffix), rest)
  | .anchor name :: rest => some (some name, none, rest)
  | .tag handle suffix :: .anchor name :: rest => do
    return (some name, some (← handles.tag? handle suffix), rest)
  | .tag handle suffix :: rest => do return (none, some (← handles.tag? handle suffix), rest)
  | rest => some (none, none, rest)

variable (handles : Handles)

mutual

/-- Reads a node. In a block context it may be a block collection, and the value of a key
may also be a list that is not indented. -/
def read : (fuel : Nat) → (block unindented : Bool) → List Token →
    Option (Node String × List Token)
  | 0, _, _, _ => none
  | _ + 1, _, _, .reference name :: rest => some (reference name, rest)
  | fuel + 1, block, unindented, tokens => do
    let (anchor?, tag?, tokens) ← properties handles tokens
    if unindented && isNext (· == .blockEntry) tokens then
      let (items, rest) ← unindentedItems fuel tokens
      return (list anchor? tag? items, rest)
    else match tokens with
      | .scalar text style :: rest =>
        return (scalar anchor? (tag?.filter (· ≠ "!")) text style, rest)
      | .flowListStart :: rest =>
        let (items, rest) ← flowItems fuel true rest
        return (list anchor? tag? items, rest)
      | .flowRecordStart :: rest =>
        let (entries, rest) ← flowEntries fuel true rest
        return (record anchor? tag? entries, rest)
      | tokens =>
        if block && isNext (· == .blockListStart) tokens then
          let (items, rest) ← blockItems fuel (tokens.drop 1)
          return (list anchor? tag? items, rest)
        else if block && isNext (· == .blockRecordStart) tokens then
          let (entries, rest) ← blockEntries fuel (tokens.drop 1)
          return (record anchor? tag? entries, rest)
        else if anchor?.isSome || tag?.isSome then return (scalar anchor? tag? "" .plain, tokens)
        else none

/-- Reads the items of a block list up to its end. -/
def blockItems : (fuel : Nat) → List Token → Option (List (Node String) × List Token)
  | fuel + 1, .blockEntry :: rest => do
    let (item, rest) ← unlessAt [.blockEntry, .blockEnd] (read fuel true false) rest
    let (more, rest) ← blockItems fuel rest
    return (item :: more, rest)
  | _ + 1, .blockEnd :: rest => some ([], rest)
  | _, _ => none

/-- Reads the items of a list that is not indented. It ends where no item follows. -/
def unindentedItems : (fuel : Nat) → List Token → Option (List (Node String) × List Token)
  | fuel + 1, .blockEntry :: rest => do
    let (item, rest) ← unlessAt [.blockEntry, .key, .value, .blockEnd] (read fuel true false) rest
    let (more, rest) ← unindentedItems fuel rest
    return (item :: more, rest)
  | _ + 1, rest => some ([], rest)
  | 0, _ => none

/-- Reads the entries of a block record up to its end. -/
def blockEntries : (fuel : Nat) → List Token →
    Option (List (Node String × Node String) × List Token)
  | fuel + 1, .key :: rest => do
    let (key, rest) ← unlessAt [.key, .value, .blockEnd] (read fuel true true) rest
    let (value, rest) ← match rest with
      | .value :: rest => unlessAt [.key, .value, .blockEnd] (read fuel true true) rest
      | rest => some (empty, rest)
    let (more, rest) ← blockEntries fuel rest
    return ((key, value) :: more, rest)
  | _ + 1, .blockEnd :: rest => some ([], rest)
  | _, _ => none

/-- Reads the items of a flow list up to its end; all but the first stand behind a comma. -/
def flowItems : (fuel : Nat) → (first : Bool) → List Token →
    Option (List (Node String) × List Token)
  | 0, _, _ => none
  | _ + 1, _, .flowListEnd :: rest => some ([], rest)
  | fuel + 1, first, tokens => do
    let tokens ← if first then some tokens
      else if isNext (· == .flowEntry) tokens then some (tokens.drop 1) else none
    match tokens with
    | .flowListEnd :: rest => return ([], rest)
    | tokens =>
      let (item, rest) ←
        if isNext (· == .key) tokens then flowPair fuel (tokens.drop 1)
        else read fuel false false tokens
      let (more, rest) ← flowItems fuel false rest
      return (item :: more, rest)

/-- Reads a record of one entry inside a flow list. Where the key is left out, the token
that shows it is dropped. -/
def flowPair : (fuel : Nat) → List Token → Option (Node String × List Token)
  | 0, _ => none
  | fuel + 1, tokens => do
    let (key, rest) ←
      if isNext ([Token.value, .flowEntry, .flowListEnd].contains ·) tokens then
        some (empty, tokens.drop 1)
      else read fuel false false tokens
    let (value, rest) ← match rest with
      | .value :: rest => unlessAt [.flowEntry, .flowListEnd] (read fuel false false) rest
      | rest => some (empty, rest)
    return (record none none [(key, value)], rest)

/-- Reads the entries of a flow record up to its end; all but the first stand behind a
comma. -/
def flowEntries : (fuel : Nat) → (first : Bool) → List Token →
    Option (List (Node String × Node String) × List Token)
  | 0, _, _ => none
  | _ + 1, _, .flowRecordEnd :: rest => some ([], rest)
  | fuel + 1, first, tokens => do
    let tokens ← if first then some tokens
      else if isNext (· == .flowEntry) tokens then some (tokens.drop 1) else none
    match tokens with
    | .flowRecordEnd :: rest => return ([], rest)
    | tokens =>
      let (entry, rest) ←
        if isNext (· == .key) tokens then do
          let (key, rest) ←
            unlessAt [.value, .flowEntry, .flowRecordEnd] (read fuel false false) (tokens.drop 1)
          let (value, rest) ← match rest with
            | .value :: rest => unlessAt [.flowEntry, .flowRecordEnd] (read fuel false false) rest
            | rest => some (empty, rest)
          some ((key, value), rest)
        else do
          let (key, rest) ← read fuel false false tokens
          some ((key, empty), rest)
      let (more, rest) ← flowEntries fuel false rest
      return (entry :: more, rest)

end

end Node

/-- What the directives of a document say. -/
structure Directives where
  version? : Option (Nat × Nat) := none
  handles : Handles := []

/-- Reads directives. Each may be given once, and only versions 1.1 and 1.2 are known. -/
def Directives.read (found : Directives) : List Token → Option (Directives × List Token)
  | .version major minor :: rest =>
    if found.version?.isSome || major ≠ 1 || (minor ≠ 1 && minor ≠ 2) then none
    else read { found with version? := some (major, minor) } rest
  | .handle name target :: rest =>
    if (found.handles.lookup name).isSome then none
    else read { found with handles := found.handles ++ [(name, target)] } rest
  | rest => some (found, rest)

/-- The token begins or ends a document. -/
def Token.isDocumentMark : Token → Bool
  | version .. | handle .. | documentStart | documentEnd => true
  | _ => false

/-- Reads the node of the first document. Without a start token it begins at once. -/
def Node.ofFirst? (tokens : List Token) : Option (Node String × List Token) := do
  let fuel := 2 * tokens.length + 4
  match tokens with
  | [] => return (.empty, [])
  | first :: _ =>
    if first.isDocumentMark && first ≠ .documentEnd then
      let (directives, rest) ← Directives.read {} tokens
      if !isNext (· == .documentStart) rest then none
      let rest := rest.drop 1
      if rest.isEmpty || isNext Token.isDocumentMark rest then return (.empty, rest)
      else Node.read (directives.handles ++ Handles.standard) fuel true false rest
    else Node.read Handles.standard fuel true false tokens

/-- Puts tokens together to a document, behind which only end markers may stand. -/
def Document.ofTokens? (tokens : List Token) : Option Document := do
  let (node, rest) ← Node.ofFirst? tokens
  if rest.all (· == .documentEnd) then Document.ofNode? node else none

end RouteSurvey.Data.Yaml
