/-! # Tokens

The tokens of a YAML text. Indentation has become explicit: a token begins and ends each
block collection.
-/

namespace RouteSurvey.Data.Yaml

/-- How a scalar was written. -/
inductive Style where
  | plain | quoted | literal | folded
deriving DecidableEq, Repr

/-- A token. -/
inductive Token where
  | version (major minor : Nat)
  | handle (name target : String)
  | documentStart
  | documentEnd
  | blockListStart
  | blockRecordStart
  | blockEnd
  | flowListStart
  | flowListEnd
  | flowRecordStart
  | flowRecordEnd
  | blockEntry
  | flowEntry
  | key
  | value
  | reference (name : String)
  | anchor (name : String)
  | tag (handle suffix : String)
  | scalar (text : String) (style : Style)
deriving DecidableEq, Repr

end RouteSurvey.Data.Yaml
