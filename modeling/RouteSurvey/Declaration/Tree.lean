import RouteSurvey.Marker
import RouteSurvey.Mapping
import RouteSurvey.TypeRef

/-! # Declaration trees

Classes with their fields and methods, and the questions a survey asks about them. A
class may name the class it is nested in and a superclass; neither name needs to belong
to a class of the tree.
-/

namespace RouteSurvey.Declaration

/-- A parameter of a method. -/
structure Parameter where
  name : String
  type : TypeRef
  markers : List Marker := []
deriving Inhabited

/-- A data member of a class. -/
structure Field where
  name : String
  type : TypeRef
  isStatic : Bool := false
  /-- Made by a compiler or a framework, and no part of the data -/
  isSynthetic : Bool := false
deriving Inhabited

/-- A method declared on a class. -/
structure Method where
  name : String
  markers : List Marker := []
  parameters : List Parameter := []
  /-- Absent when the method returns nothing -/
  returnType? : Option TypeRef := none
deriving Inhabited

/-- A class: a controller, a payload, or both. -/
structure Class where
  /-- The qualified name -/
  name : String
  /-- The qualified name of the class around it -/
  enclosing? : Option String := none
  markers : List Marker := []
  superclass? : Option TypeRef := none
  fields : List Field := []
  methods : List Method := []
deriving Inhabited

/-- A handle on a class, or on a method by its class and its position there. -/
inductive Ref where
  | ofClass (index : Nat)
  | ofMethod (index position : Nat)
deriving DecidableEq, Repr, Inhabited

/-- The position of the class a handle belongs to. -/
def Ref.classIndex : Ref → Nat
  | ofClass index => index
  | ofMethod index _ => index

/-- A declaration tree. -/
structure Tree where
  classes : List Class := []
deriving Inhabited

namespace Tree

/-- The class a handle belongs to. -/
def classAt? (tree : Tree) (ref : Ref) : Option Class :=
  tree.classes[ref.classIndex]?

/-- The method a handle means; a handle past the last method means none. -/
def methodAt? (tree : Tree) : Ref → Option Method
  | .ofClass _ => none
  | .ofMethod index position => do (← tree.classes[index]?).methods[position]?

/-- The first class of a name. -/
def classNamed? (tree : Tree) (name : String) : Option Class :=
  tree.classes.find? (·.name == name)

/-- The number of methods of all classes. -/
def methodCount (tree : Tree) : Nat :=
  (tree.classes.flatMap (·.methods)).length

/-- The name without any path. -/
def simpleName (tree : Tree) (ref : Ref) : String :=
  match tree.methodAt? ref with
  | some method => method.name
  | none => (tree.classAt? ref).elim "" fun owner => RouteSurvey.simpleName owner.name

/-- The full name; that of a method begins with the name of its class. -/
def qualifiedName (tree : Tree) (ref : Ref) : String :=
  let className := (tree.classAt? ref).elim "" (·.name)
  match tree.methodAt? ref with
  | some method => className ++ "::" ++ method.name
  | none => className

/-- The markers of a declaration. -/
def markers (tree : Tree) (ref : Ref) : List Marker :=
  match tree.methodAt? ref with
  | some method => method.markers
  | none => (tree.classAt? ref).elim [] (·.markers)

/-- The declaration around another one: the class of a method, and for a class the first
class of the name it gives, unless that is the class itself. -/
def enclosing? (tree : Tree) : Ref → Option Ref
  | .ofMethod index _ => some (.ofClass index)
  | .ofClass index => do
    let owner ← tree.classes[index]?
    let name ← owner.enclosing?
    let found ← tree.classes.findIdx? (·.name == name)
    if found = index then none else some (.ofClass found)

/-- The parameters of a method; a class has none. -/
def parameters (tree : Tree) (ref : Ref) : List Parameter :=
  (tree.methodAt? ref).elim [] (·.parameters)

/-- The return type of a method. -/
def returnType? (tree : Tree) (ref : Ref) : Option TypeRef :=
  (tree.methodAt? ref).bind (·.returnType?)

/-- The class a type reference means: the one of exactly that name, or else the first one
the reference can stand for. -/
def findType? (tree : Tree) (type : TypeRef) : Option Ref :=
  let exact := tree.classes.findIdx? (·.name == type.name)
  (exact <|> tree.classes.findIdx? (type.names ·.name)).map .ofClass

/-- The fields declared on a class itself. -/
def fields (tree : Tree) : Ref → List Field
  | .ofClass index => (tree.classes[index]?).elim [] (·.fields)
  | .ofMethod .. => []

/-- The superclass a class names. -/
def superclass? (tree : Tree) : Ref → Option TypeRef
  | .ofClass index => (tree.classes[index]?).bind (·.superclass?)
  | .ofMethod .. => none

/-- The first marker of a kind on a declaration. -/
def marker? (tree : Tree) (ref : Ref) (kind : String) : Option Marker :=
  Marker.ofKind? (tree.markers ref) kind

/-- The declaration itself is marked as deprecated. -/
def isDeprecated (tree : Tree) (ref : Ref) : Bool :=
  (tree.marker? ref Marker.deprecated).isSome

/-- The handles of the methods whose markers satisfy `p`, in declaration order. -/
def methodsWhere (tree : Tree) (p : List Marker → Bool) : List Ref :=
  tree.classes.zipIdx.flatMap fun (owner, index) =>
    (owner.methods.zipIdx.filter fun (method, _) => p method.markers).map
      fun (_, position) => .ofMethod index position

/-- The methods carrying a marker of a kind. -/
def methodsMarkedWith (tree : Tree) (kind : String) : List Ref :=
  tree.methodsWhere (·.any (·.kind == kind))

/-- The methods carrying a mapping of any kind, each once, in declaration order. -/
def mappedMethods (tree : Tree) : List Ref :=
  tree.methodsWhere fun markers => MappingKind.all.any fun kind =>
    markers.any (·.kind == kind.name)

end Tree

end RouteSurvey.Declaration
