import RouteSurvey.Config
import RouteSurvey.Data.Format
import RouteSurvey.Declaration.Tree

/-! # Documents

How a declaration tree and the settings of a survey are laid out in a document of any
format. Only type references and literals are told apart by what they look like, so these
two are read from self-describing data; everything else is read as what it has to be.
-/

namespace RouteSurvey

open Data

namespace TypeRef

/-- The parts of a type reference that is written out as a record. -/
inductive Part where
  | name | args | other
deriving DecidableEq

/-- The part a key stands for. A part may also be given by its position. -/
def Part.ofKey? : Datum → Option Part
  | .text "name" => some name
  | .text "args" => some args
  | .text _ => some other
  | .number (some 0) => some name
  | .number (some 1) => some args
  | .number (some _) => some other
  | _ => none

mutual

/-- Reads a type reference: its name alone, or a record of its name and arguments. -/
def ofDatum? : Datum → Option TypeRef
  | .text s => some (plain s)
  | .record entries => do
    match ← partsOf? entries with
    | ([name], []) => return plain name
    | ([name], [args]) => return mk name args
    | _ => none
  | _ => none

/-- The names and the argument lists given by the entries of a record. -/
def partsOf? : List (Datum × Datum) → Option (List String × List (List TypeRef))
  | [] => some ([], [])
  | (key, value) :: rest => do
    let (names, lists) ← partsOf? rest
    match ← Part.ofKey? key with
    | .name =>
      match value with
      | .text s => return (s :: names, lists)
      | _ => none
    | .args =>
      match value with
      | .list items => return (names, (← ofData? items) :: lists)
      | _ => none
    | .other => return (names, lists)

/-- Reads type references in order. -/
def ofData? : List Datum → Option (List TypeRef)
  | [] => some []
  | item :: rest => do return (← ofDatum? item) :: (← ofData? rest)

end

end TypeRef

namespace Literal

/-- The string a datum holds. -/
def stringOf? : Datum → Option String
  | .text s => some s
  | _ => none

/-- Reads a literal: a string, or a list of strings. -/
def ofDatum? : Datum → Option Literal
  | .text s => some (text s)
  | .list items => (items.mapM stringOf?).map list
  | _ => none

end Literal

variable {ν : Type} {m : Type → Type} [Monad m] [MonadExceptOf Unit m] (format : Format ν m)

/-- Reads a type reference. -/
def TypeRef.read (value : ν) : m TypeRef := do
  Format.need (TypeRef.ofDatum? (← format.datum value))

/-- Reads a literal. -/
def Literal.read (value : ν) : m Literal := do
  Format.need (Literal.ofDatum? (← format.datum value))

/-- Reads the values of a marker. Of several values with one key the last one counts. -/
def Marker.readValues (value : ν) : m (Dictionary Literal) := do
  let entries ← (← format.dictionary value).mapM fun (key, value) => do
    return (key, ← Literal.read format value)
  return Dictionary.ofList entries

/-- Reads a marker. -/
def Marker.read (value : ν) : m Marker := do
  let fields ← format.record ["kind", "values"] value
  return {
    kind := ← Format.required fields "kind" format.text
    values := ← Format.defaulted fields "values" Dictionary.empty (Marker.readValues format) }

namespace Declaration

/-- Reads a parameter. -/
def Parameter.read (value : ν) : m Parameter := do
  let fields ← format.record ["name", "type", "annotations"] value
  return {
    name := ← Format.required fields "name" format.text
    type := ← Format.required fields "type" (TypeRef.read format)
    markers := ← Format.defaulted fields "annotations" []
      (format.listOf (Marker.read format)) }

/-- Reads a field. -/
def Field.read (value : ν) : m Field := do
  let fields ← format.record ["name", "type", "static", "synthetic"] value
  return {
    name := ← Format.required fields "name" format.text
    type := ← Format.required fields "type" (TypeRef.read format)
    isStatic := ← Format.defaulted fields "static" false format.flag
    isSynthetic := ← Format.defaulted fields "synthetic" false format.flag }

/-- Reads a method. -/
def Method.read (value : ν) : m Method := do
  let fields ← format.record ["name", "annotations", "params", "return_type"] value
  return {
    name := ← Format.required fields "name" format.text
    markers := ← Format.defaulted fields "annotations" []
      (format.listOf (Marker.read format))
    parameters := ← Format.defaulted fields "params" [] (format.listOf (Parameter.read format))
    returnType? := ← format.optionalField fields "return_type" (TypeRef.read format) }

/-- Reads a class. -/
def Class.read (value : ν) : m Class := do
  let fields ← format.record
    ["name", "enclosing", "annotations", "superclass", "fields", "methods"] value
  return {
    name := ← Format.required fields "name" format.text
    enclosing? := ← format.optionalField fields "enclosing" format.text
    markers := ← Format.defaulted fields "annotations" []
      (format.listOf (Marker.read format))
    superclass? := ← format.optionalField fields "superclass" (TypeRef.read format)
    fields := ← Format.defaulted fields "fields" [] (format.listOf (Field.read format))
    methods := ← Format.defaulted fields "methods" [] (format.listOf (Method.read format)) }

/-- Reads a declaration tree. -/
def Tree.read (value : ν) : m Tree := do
  let fields ← format.record ["classes"] value
  return ⟨← Format.defaulted fields "classes" [] (format.listOf (Class.read format))⟩

end Declaration

/-- The names of the settings. -/
def Config.fieldNames : List String :=
  ["envelope_types", "top_types", "report_file_name"]

/-- Reads settings. What is not set has its default, and an unknown setting is an error. -/
def Config.read (value : ν) : m Config := do
  let fields ← format.record Config.fieldNames value
  if fields.any fun field => !Config.fieldNames.contains field.1 then throw ()
  let defaults : Config := {}
  return {
    envelopeTypes := ← Format.defaulted fields "envelope_types" defaults.envelopeTypes
      (format.listOf format.text)
    topTypes := ← Format.defaulted fields "top_types" defaults.topTypes
      (format.listOf format.text)
    reportFileName := ← Format.defaulted fields "report_file_name" defaults.reportFileName
      format.text }

end RouteSurvey
