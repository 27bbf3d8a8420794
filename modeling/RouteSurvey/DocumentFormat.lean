import RouteSurvey.Data.Json
import RouteSurvey.Data.Yaml.Format
import RouteSurvey.Declaration.Document

/-! # Document formats

Declaration trees and settings come as texts in one of two formats.
-/

namespace RouteSurvey

open Data

/-- A format of documents. -/
inductive DocumentFormat where
  | json | yaml
deriving DecidableEq, Repr

namespace DocumentFormat

/-- The name of a format. -/
def name : DocumentFormat → String
  | json => "JSON"
  | yaml => "YAML"

/-- The format of a file with the given extension. Only one extension stands for JSON. -/
def ofExtension (extension? : Option String) : DocumentFormat :=
  if extension? == some "json" then json else yaml

/-- Reads a text with a decoder for any format. -/
def decode? {α : Type} (format : DocumentFormat)
    (read : {ν : Type} → {m : Type → Type} → [Monad m] → [MonadExceptOf Unit m] →
      Format ν m → ν → m α)
    (text : String) : Option α :=
  match format with
  | json => do read Json.format (← Json.read? text)
  | yaml => do (← Yaml.Document.read? text).decode read

end DocumentFormat

/-- Reads a declaration tree from a text. -/
def Declaration.Tree.ofText? (format : DocumentFormat) (text : String) : Option Tree :=
  format.decode? (fun found => Tree.read found) text

/-- Reads settings from a text. -/
def Config.ofText? (format : DocumentFormat) (text : String) : Option Config :=
  format.decode? (fun found => Config.read found) text

end RouteSurvey
