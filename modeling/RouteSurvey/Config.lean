import RouteSurvey.Name

/-! # Configuration

Settings of a survey: which types wrap a payload, which types are universal, and the
name of the report file.
-/

namespace RouteSurvey

/-- The settings of a survey. -/
structure Config where
  /-- Generic wrappers whose single argument is the actual payload -/
  envelopeTypes : List String := ["ResponseEntity", "HttpEntity", "RequestEntity", "Json"]
  /-- Names of the universal type: as an argument it means no argument, as a superclass it
  ends the inheritance -/
  topTypes : List String := ["_", "Object", "java.lang.Object"]
  /-- The name of the report inside the output directory -/
  reportFileName : String := "routes"
deriving DecidableEq, Repr, Inhabited

namespace Config

/-- The name is an entry, or its simple name is an entry without a path. -/
def matchesAny (entries : List String) (name : String) : Bool :=
  entries.any fun entry =>
    entry == name || (!isQualified entry && entry == simpleName name)

/-- The name is that of an envelope. -/
def isEnvelope (config : Config) (name : String) : Bool :=
  matchesAny config.envelopeTypes name

/-- The name is that of a universal type. -/
def isTopType (config : Config) (name : String) : Bool :=
  matchesAny config.topTypes name

end Config

end RouteSurvey
