import RouteSurvey.Declaration.Tree
import RouteSurvey.Source.Marking

/-! # Parts of classes

A class of a source tree is put together of parts: the struct itself and the blocks that
implement methods for it. The name of the class follows from the module a part stands in.
-/

namespace RouteSurvey.Source

/-- The names of a path, joined by separators. -/
def pathText (names : List String) : String :=
  "::".intercalate names

mutual

/-- The reference a type is read as. References and parentheses stand for what they hold. -/
def TypeExpr.typeRef : TypeExpr → TypeRef
  | .path segments args => .mk (pathText (segments.map Ident.text)) (TypeExpr.typeRefs args)
  | .reference target => target.typeRef
  | .paren inner => inner.typeRef
  | .tuple [] => .plain "()"
  | .tuple (_ :: _) => .plain "Unknown"
  | .hole => .plain "_"
  | .other => .plain "Unknown"

/-- The references several types are read as. -/
def TypeExpr.typeRefs : List TypeExpr → List TypeRef
  | [] => []
  | type :: rest => type.typeRef :: TypeExpr.typeRefs rest

end

/-! ## Fields and methods -/

/-- The attribute that says how a field is written to documents. -/
def fieldOptions : String := "serde"

namespace FieldDecl

/-- An option with the given name is set for a field. -/
def hasOption (name : String) (field : FieldDecl) : Bool :=
  field.attributes.any fun attr =>
    (attr.listed fieldOptions).any (·.isNamed name)

/-- The field holds the data of another type as its own. -/
def isFlattened (field : FieldDecl) : Bool :=
  field.hasOption "flatten"

/-- The field as part of a class. -/
def declaration (field : FieldDecl) : Declaration.Field where
  name := field.name.text
  type := field.type.typeRef
  isSynthetic := field.hasOption "skip"

end FieldDecl

/-- The first flattened field stands for a superclass. -/
def superclassOf? (fields : List FieldDecl) : Option TypeRef :=
  (fields.find? FieldDecl.isFlattened).map (·.type.typeRef)

/-- All fields but the one that stands for a superclass. -/
def dataFields (fields : List FieldDecl) : List Declaration.Field :=
  (fields.eraseP FieldDecl.isFlattened).map FieldDecl.declaration

/-- The parameter at a position; if it has no name, it is called after the position. -/
def Argument.parameter? (position : Nat) : Argument → Option Declaration.Parameter
  | .receiver => none
  | .typed attributes name? type => some {
      name := name?.elim ("arg" ++ toString position) Ident.text
      type := type.typeRef
      markers := markersOf attributes }

/-- The kinds of markers on a parameter whose arguments cannot be read. -/
def Argument.malformed : Argument → List String
  | .receiver => []
  | .typed attributes _ _ => malformedKinds attributes

namespace MethodDecl

/-- The type of the result; the empty tuple is none. -/
def result? (method : MethodDecl) : Option TypeRef :=
  match method.output? with
  | none => none
  | some (.tuple []) => none
  | some type => some type.typeRef

/-- The method as part of a class. -/
def declaration (method : MethodDecl) : Declaration.Method where
  name := method.name.text
  markers := markersOf method.attributes
  parameters := method.arguments.zipIdx.filterMap fun (argument, position) =>
    argument.parameter? position
  returnType? := method.result?

/-- The kinds of markers on a method whose arguments cannot be read, those on its
parameters first. -/
def malformed (method : MethodDecl) : List String :=
  method.arguments.flatMap Argument.malformed ++ malformedKinds method.attributes

end MethodDecl

/-! ## Parts -/

/-- What a struct or a block of methods adds to a class. -/
structure Part where
  className : String
  isStruct : Bool
  markers : List Marker
  superclass? : Option TypeRef := none
  fields : List Declaration.Field := []
  methods : List Declaration.Method := []
  /-- The kinds of markers whose arguments cannot be read -/
  malformed : List String
deriving Inhabited

/-- The name that leads every qualified name. -/
def packageName : String := "crate"

/-- The full name of what is called `name` in a module. -/
def qualify (modules : List String) (name : String) : String :=
  pathText (packageName :: modules ++ [name])

/-- The class that a block of methods is for. A path from the package's root is taken as it
is; of any other path only the last segment counts, as a name in the same module. -/
def targetName? (modules : List String) : TypeExpr → Option String
  | .path segments _ =>
    let names := segments.map Ident.text
    if names.head? = some packageName ∧ 1 < names.length then some (pathText names)
    else names.getLast?.map (qualify modules)
  | _ => none

/-- The part that a struct is. -/
def Part.ofStruct (modules : List String) (attributes : List Attribute) (name : Ident)
    (fields : List FieldDecl) : Part where
  className := qualify modules name.text
  isStruct := true
  markers := markersOf attributes
  superclass? := superclassOf? fields
  fields := dataFields fields
  malformed := malformedKinds attributes

/-- The part that a block of methods is; none if it is not for a named type. -/
def Part.ofMethods? (modules : List String) (attributes : List Attribute) (self : TypeExpr)
    (methods : List MethodDecl) : Option Part :=
  (targetName? modules self).map fun className => {
    className := className
    isStruct := false
    markers := markersOf attributes
    methods := methods.map MethodDecl.declaration
    malformed := malformedKinds attributes ++ methods.flatMap MethodDecl.malformed }

mutual

/-- The parts in an item of a module, in order. -/
def Item.parts (modules : List String) : Item → List Part
  | .module name items => Item.partsOfAll (modules ++ [name.text]) items
  | .struct attributes name fields => [.ofStruct modules attributes name fields]
  | .methods attributes self block =>
    (Part.ofMethods? modules attributes self block).toList
  | .other inner => Item.partsOfAll modules inner

/-- The parts in several items of a module, in order. -/
def Item.partsOfAll (modules : List String) : List Item → List Part
  | [] => []
  | item :: rest => item.parts modules ++ Item.partsOfAll modules rest

end

/-- The parts in a file that is the given module. -/
def File.parts (modules : List String) (file : File) : List Part :=
  Item.partsOfAll modules (file.header ++ file.items)

end RouteSurvey.Source
