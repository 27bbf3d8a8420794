import RouteSurvey.Source.Part

/-! # Assembly of classes

Parts with one class name make up a class. A class without a struct is detached if exactly
one struct has its simple name; it is then merged into the class of that struct.
-/

namespace RouteSurvey.Source

/-- The names of some parts, each once, in the order in which they come first. -/
def classNames (parts : List Part) : List String :=
  (parts.map (·.className)).eraseDups

/-- The class that some parts make up. The first superclass among them counts. -/
def assemble (name : String) (parts : List Part) : Declaration.Class where
  name := name
  markers := parts.flatMap (·.markers)
  superclass? := parts.findSome? (·.superclass?)
  fields := parts.flatMap (·.fields)
  methods := parts.flatMap (·.methods)

/-- The classes of some parts, in the order in which they come first. -/
def classesOf (parts : List Part) : List Declaration.Class :=
  (classNames parts).map fun name => assemble name (parts.filter (·.className == name))

/-- The names of the classes that have a struct. -/
def structNames (parts : List Part) : List String :=
  (parts.filter (·.isStruct)).map (·.className)

section Attachment

variable (structs : List String) (classes : List Declaration.Class)

/-- The classes with a struct that have a simple name. -/
def candidates (simple : String) : List Declaration.Class :=
  classes.filter fun candidate =>
    structs.contains candidate.name && simpleName candidate.name == simple

/-- The name of the class that a class is merged into. -/
def attachment? (block : Declaration.Class) : Option String :=
  if structs.contains block.name then none
  else
    match candidates structs classes (simpleName block.name) with
    | [target] => some target.name
    | _ => none

/-- A class together with the methods and markers of others. -/
def absorb (target : Declaration.Class) (blocks : List Declaration.Class) : Declaration.Class :=
  { target with
    markers := target.markers ++ blocks.flatMap (·.markers)
    methods := target.methods ++ blocks.flatMap (·.methods) }

/-- Merges the detached classes into those of their structs. -/
def attachDetached : List Declaration.Class :=
  (classes.filter fun kept => (attachment? structs classes kept).isNone).map fun kept =>
    absorb kept (classes.filter fun block =>
      attachment? structs classes block == some kept.name)

end Attachment

/-- The declaration tree that the parts of a source tree make up. -/
def treeOfParts (parts : List Part) : Declaration.Tree :=
  ⟨attachDetached (structNames parts) (classesOf parts)⟩

end RouteSurvey.Source
