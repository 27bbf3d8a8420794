import RouteSurvey.Config
import RouteSurvey.Declaration.Tree
import RouteSurvey.Route

/-! # Inheritance and payloads

The walk from a class along its superclasses, and the payload a type reference stands
for: the fields met on that walk, or for an envelope those of the type inside it.
-/

namespace RouteSurvey.Declaration.Tree

/-- The class a superclass reference leads to; a universal type leads nowhere. -/
def parent? (tree : Tree) (config : Config) (ref : Ref) : Option Ref := do
  let superclass ← tree.superclass? ref
  if config.isTopType superclass.name then none else tree.findType? superclass

/-- The classes met from `current` upwards that are not in `seen`, up to the first one met
before. At most `fuel` of them are listed. -/
def lineageFrom (tree : Tree) (config : Config) (seen : List Ref) :
    (fuel : Nat) → (current : Ref) → List Ref
  | 0, _ => []
  | fuel + 1, current =>
    if current ∈ seen then []
    else current :: match tree.parent? config current with
      | some next => tree.lineageFrom config (current :: seen) fuel next
      | none => []

/-- A class and its superclasses, most derived first, each once. No walk without
repetition is longer than the number of classes. -/
def lineage (tree : Tree) (config : Config) (ref : Ref) : List Ref :=
  tree.lineageFrom config [] (tree.classes.length + 1) ref

/-- The fields that belong to the data shape of one class. -/
def ownFields (tree : Tree) (ref : Ref) : List Param :=
  ((tree.fields ref).filter fun field => !field.isStatic && !field.isSynthetic).map
    fun field => { type := field.type.display, name := field.name }

/-- The fields of a class and of its superclasses, most derived first. -/
def inheritedFields (tree : Tree) (config : Config) (ref : Ref) : List Param :=
  (tree.lineage config ref).flatMap tree.ownFields

/-- The first type argument that is not universal. -/
def envelopeContent? (config : Config) (type : TypeRef) : Option TypeRef :=
  type.args.find? (!config.isTopType ·.name)

/-- The payload a type reference stands for. An envelope keeps its name and has the fields
of its content; any other reference has a payload if it leads to a class. -/
def payload? (tree : Tree) (config : Config) (type : TypeRef) : Option Payload :=
  if config.isEnvelope type.name then
    let content := (envelopeContent? config type).bind tree.findType?
    some ⟨type.name, content.elim [] (tree.inheritedFields config)⟩
  else
    (tree.findType? type).map fun ref => ⟨tree.qualifiedName ref, tree.inheritedFields config ref⟩

end RouteSurvey.Declaration.Tree
