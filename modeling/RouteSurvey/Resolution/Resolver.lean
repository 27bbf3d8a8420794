import RouteSurvey.Notice
import RouteSurvey.Resolution.Chain
import RouteSurvey.Resolution.Rules

/-! # Resolving route attributes

Each attribute of a route is folded along the enclosing chain of a declaration, from the
outermost declaration inwards. Looking at a declaration leaves a trace in a journal: a
declaration with several mapping kinds is warned about the first time it is looked at.
The journal never influences a result.
-/

namespace RouteSurvey.Resolution

open Declaration (Tree Ref)

/-- An attribute without which there is no route. -/
inductive Attribute where
  | path | methods
deriving DecidableEq, Repr

/-- The attribute in words. -/
def Attribute.name : Attribute → String
  | path => "path"
  | methods => "request methods"

/-- No declaration of the chain provides a required attribute. -/
structure Failure where
  declaration : String
  missing : Attribute
deriving DecidableEq, Repr

/-- The text of a failure. -/
def Failure.text (failure : Failure) : String :=
  "could not resolve " ++ failure.missing.name ++ " for " ++ failure.declaration ++
    ": no mapping on it or any enclosing declaration provides one"

/-- What looking at declarations has left behind. -/
structure Journal where
  /-- The warnings, in the order in which they were raised -/
  warnings : List AmbiguousMapping := []
  /-- The declarations warned about -/
  reported : List Ref := []
  /-- The log, in order -/
  log : List Notice := []
deriving Repr, Inhabited

namespace Journal

/-- Adds lines to the log. -/
def note (journal : Journal) (notices : List Notice) : Journal :=
  { journal with log := journal.log ++ notices }

/-- Adds a warning about a declaration, unless there is one about it. -/
def warn (journal : Journal) (ref : Ref) (warning : AmbiguousMapping) : Journal :=
  if ref ∈ journal.reported then journal
  else
    { warnings := journal.warnings ++ [warning]
      reported := ref :: journal.reported
      log := journal.log ++ [.ambiguous warning] }

end Journal

/-- The computations that keep a journal. -/
abbrev Resolver := StateM Journal

/-- The four attributes and the deprecation mark of a route. -/
structure Schema where
  paths : List String
  methods : List HttpMethod
  consumes : List String
  produces : List String
  deprecated : Bool
deriving DecidableEq, Repr

variable (tree : Tree)

/-- The mapping of a declaration as its markers have it. -/
def normalized (ref : Ref) : Normalized :=
  Normalized.ofMarkers (tree.markers ref)

/-- The warning a declaration deserves. -/
def ambiguity? (ref : Ref) : Option AmbiguousMapping := do
  let normal := normalized tree ref
  let mapping ← normal.mapping?
  if normal.isAmbiguous then
    some ⟨tree.qualifiedName ref, normal.candidates, mapping.kind⟩
  else none

/-- The journal after looking at a declaration. -/
def consulted (journal : Journal) (ref : Ref) : Journal :=
  let noted := journal.note ((normalized tree ref).skipped.map .unknownMethod)
  (ambiguity? tree ref).elim noted (noted.warn ref)

/-- Looks at the mapping of a declaration. -/
def mapping? (ref : Ref) : Resolver (Option Mapping) := do
  modify (consulted tree · ref)
  return (normalized tree ref).mapping?

/-- Looks at the mappings along the chain of a declaration, outermost first. -/
def levels (ref : Ref) : Resolver (List (Option Mapping)) := do
  let chain := tree.chain ref
  modify (·.note (chain.repeated?.toList.map fun outer =>
    .cyclicNesting (tree.qualifiedName outer)))
  chain.members.reverse.mapM (mapping? tree)

/-- The own values of a level; none if the declaration has no mapping. -/
def ownValues {α : Type} (values : Mapping → List α) (level : Option Mapping) : List α :=
  level.elim [] values

/-- The paths that levels amount to, outermost first. -/
def foldPaths (levels : List (Option Mapping)) : Option (List String) :=
  levels.foldl (fun parent level => inheritPaths (ownValues Mapping.paths level) parent) none

/-- The request methods that levels amount to. -/
def foldMethods (levels : List (Option Mapping)) : Option (List HttpMethod) :=
  levels.foldl (fun parent level => inheritMethods (ownValues Mapping.methods level) parent) none

/-- The media types that levels amount to, for either attribute. -/
def foldMediaTypes (values : Mapping → List String) (levels : List (Option Mapping)) :
    List String :=
  levels.foldl (fun parent level => inheritMediaTypes (ownValues values level) parent) []

/-- The value of an attribute that has to be there. -/
def required {α : Type} (ref : Ref) (missing : Attribute) (value : Option α) :
    Except Failure α :=
  value.elim (.error ⟨tree.qualifiedName ref, missing⟩) .ok

/-- The paths of a declaration. -/
def resolvePaths (ref : Ref) : Resolver (Except Failure (List String)) := do
  return required tree ref .path (foldPaths (← levels tree ref))

/-- The request methods of a declaration. -/
def resolveMethods (ref : Ref) : Resolver (Except Failure (List HttpMethod)) := do
  return required tree ref .methods (foldMethods (← levels tree ref))

/-- The media types a declaration accepts. -/
def resolveConsumes (ref : Ref) : Resolver (List String) := do
  return foldMediaTypes Mapping.consumes (← levels tree ref)

/-- The media types a declaration produces. -/
def resolveProduces (ref : Ref) : Resolver (List String) := do
  return foldMediaTypes Mapping.produces (← levels tree ref)

/-- The declaration, or the one right around it, is marked as deprecated. -/
def isDeprecated (ref : Ref) : Bool :=
  tree.isDeprecated ref || (tree.enclosing? ref).any tree.isDeprecated

/-- All attributes of a method. After a missing one no further one is looked at. -/
def resolve (ref : Ref) : Resolver (Except Failure Schema) := do
  match ← resolvePaths tree ref with
  | .error failure => return .error failure
  | .ok paths =>
    match ← resolveMethods tree ref with
    | .error failure => return .error failure
    | .ok methods =>
      let consumes ← resolveConsumes tree ref
      let produces ← resolveProduces tree ref
      return .ok ⟨paths, methods, consumes, produces, isDeprecated tree ref⟩

end RouteSurvey.Resolution
