import RouteSurvey.Data.Datum

/-! # Formats

What decoding asks of a data format: how a value is read where text, a flag, a list, a
record, a dictionary or an optional value is expected. Decoders are written once against
`Format`, and each format brings its own.
-/

namespace RouteSurvey.Data

/-- The readings of a format with values of type `ν`, done in `m`. -/
structure Format (ν : Type) (m : Type → Type) where
  text : ν → m String
  flag : ν → m Bool
  list : ν → m (List ν)
  /-- The entries of a record with fields of the given names, in this order -/
  record : List String → ν → m (List (String × ν))
  /-- The entries of a map with arbitrary keys -/
  dictionary : ν → m (List (String × ν))
  /-- The value, unless it stands for absence -/
  optional : ν → m (Option ν)
  /-- The value as it describes itself -/
  datum : ν → m Datum

namespace Format

variable {ν : Type} {m : Type → Type} [Monad m] [MonadExceptOf Unit m]

/-- A value that has to be there. -/
def need {α : Type} (value : Option α) : m α :=
  match value with
  | some found => pure found
  | none => throw ()

/-- The value of a field. A field given twice is an error. -/
def field? (fields : List (String × ν)) (name : String) : m (Option ν) :=
  match fields.filter (·.1 == name) with
  | [] => pure none
  | [(_, value)] => pure (some value)
  | _ => throw ()

/-- Reads a field that has to be there. -/
def required {α : Type} (fields : List (String × ν)) (name : String) (read : ν → m α) :
    m α := do
  match ← field? fields name with
  | some value => read value
  | none => throw ()

/-- Reads a field that has a default. -/
def defaulted {α : Type} (fields : List (String × ν)) (name : String) (default : α)
    (read : ν → m α) : m α := do
  match ← field? fields name with
  | some value => read value
  | none => pure default

/-- Reads a field that may be absent. -/
def optionalField {α : Type} (format : Format ν m) (fields : List (String × ν)) (name : String)
    (read : ν → m α) : m (Option α) :=
  defaulted fields name none fun value => do
    match ← format.optional value with
    | some present => return some (← read present)
    | none => return none

/-- Reads a list item by item. -/
def listOf {α : Type} (format : Format ν m) (read : ν → m α) (value : ν) : m (List α) := do
  (← format.list value).mapM read

end Format

namespace Json

/-- The key of a JSON record. -/
def key? : Datum × Datum → Option (String × Datum)
  | (.text name, value) => some (name, value)
  | _ => none

/-- The readings of JSON. Nothing stands in for anything else, except that a record may be
written as the list of its first fields. -/
def format : Format Datum Option where
  text
    | .text s => some s
    | _ => none
  flag
    | .flag value => some value
    | _ => none
  list
    | .list items => some items
    | _ => none
  record names
    | .record entries => entries.mapM key?
    | .list items => if items.length ≤ names.length then some (names.zip items) else none
    | _ => none
  dictionary
    | .record entries => entries.mapM key?
    | _ => none
  optional
    | .null => some none
    | value => some (some value)
  datum value := if value.isReadable then some value else none

end Json

end RouteSurvey.Data
