import Toolbridge.Compatibility
import Toolbridge.HelperSet
import Toolbridge.Import.Block

set_option autoImplicit false

namespace Toolbridge

structure PlannedFunction where
  name : String
  paramType : String
  resultType : String
  body : String
  /-- The function returns nil where its parameter is nil. -/
  guardsNil : Bool := false
deriving DecidableEq, Repr, Inhabited

structure Plan where
  path : String
  package : String
  imports : List Import := []
  functions : List PlannedFunction := []
  helpers : List Helper := []
deriving DecidableEq, Repr, Inhabited

inductive MethodDatum where
  | payload | result
deriving DecidableEq, Repr, Inhabited

def MethodDatum.text : MethodDatum → String
  | .payload => "method payload type reference"
  | .result => "method result type reference"

inductive PlanError where
  | missingTypeRef (toolset tool : String) (datum : MethodDatum)
  | serverDataFieldMissing (toolset tool kind field : String)
  | serverDataTypeMissing (toolset tool kind typeName : String)
  | serverDataIncompatible (toolset tool kind : String) (reason : Incompatibility)
  | conversionFailed (toolset tool function : String) (reason : ConversionError)
  | emptyBody (toolset tool function : String) (helpers : Nat)
  | helperConflict (conflict : HelperConflict)
  | importCollision (collision : NameCollision)
deriving DecidableEq, Repr

def HelperConflict.message (e : HelperConflict) : String :=
  "helper " ++ e.name ++ " is generated both as " ++ e.existing ++ " and as " ++ e.requested

def NameCollision.message (e : NameCollision) : String :=
  "import alias " ++ Text.quote e.name ++ " requested for " ++ e.path ++ " is already bound to "
    ++ e.existing

def PlanError.message : PlanError → String
  | .missingTypeRef toolset tool datum =>
    "toolset " ++ toolset ++ ": method-backed tool " ++ tool ++ " has no pre-resolved " ++ datum.text
  | .serverDataFieldMissing toolset tool kind field =>
    "toolset " ++ toolset ++ ": server data " ++ kind ++ " of tool " ++ tool
      ++ " names method result field " ++ Text.quote field ++ ", which is absent or empty"
  | .serverDataTypeMissing toolset tool kind typeName =>
    "toolset " ++ toolset ++ ": server data " ++ kind ++ " of tool " ++ tool
      ++ " has no local type " ++ typeName ++ " in the tool specs"
  | .serverDataIncompatible toolset tool kind reason =>
    "toolset " ++ toolset ++ ": server data " ++ kind ++ " of tool " ++ tool ++ " is incompatible: "
      ++ reason.message
  | .conversionFailed toolset tool function reason =>
    "toolset " ++ toolset ++ ": transform " ++ function ++ " of tool " ++ tool ++ " failed: "
      ++ reason.message
  | .emptyBody toolset tool function helpers =>
    "toolset " ++ toolset ++ ": transform " ++ function ++ " of tool " ++ tool
      ++ " produced an empty body (" ++ toString helpers ++ " helper(s))"
  | .helperConflict conflict => conflict.message
  | .importCollision collision => collision.message

inductive LogLevel where
  | debug | warn
deriving DecidableEq, Repr, Inhabited

inductive LogRecord where
  | noSpecsDir (toolset : String)
  | noSourceService (toolset : String)
  | noTools (toolset : String)
  | notMethodBacked (tool : String)
  | incompatible (tool function : String) (reason : Incompatibility)
  | notConverted (tool function : String) (reason : ConversionError)
  | emptyBody (tool function : String)
  | nothingToGenerate (toolset : String)
  | planned (toolset : String) (functions helpers : Nat)
  | resolved (service : String) (types toolsets : Nat)
deriving DecidableEq, Repr

def LogRecord.level : LogRecord → LogLevel
  | .notConverted _ _ _ => .warn
  | _ => .debug

def LogRecord.text : LogRecord → String
  | .noSpecsDir toolset => "toolset " ++ toolset ++ ": no specs directory, no transforms"
  | .noSourceService toolset => "toolset " ++ toolset ++ ": no source service, no transforms"
  | .noTools toolset => "toolset " ++ toolset ++ ": no tools, no transforms"
  | .notMethodBacked tool => "tool " ++ tool ++ ": not method-backed"
  | .incompatible tool function reason =>
    "tool " ++ tool ++ ": skipping " ++ function ++ ": " ++ reason.message
  | .notConverted tool function reason =>
    "tool " ++ tool ++ ": " ++ function ++ " falls back to JSON dispatch: " ++ reason.message
  | .emptyBody tool function => "tool " ++ tool ++ ": " ++ function ++ " has an empty body"
  | .nothingToGenerate toolset => "toolset " ++ toolset ++ ": no transforms to generate"
  | .planned toolset functions helpers =>
    "toolset " ++ toolset ++ ": " ++ toString functions ++ " transform(s), " ++ toString helpers
      ++ " helper(s)"
  | .resolved service types toolsets =>
    "resolved design for service " ++ service ++ ": " ++ toString types ++ " type(s), "
      ++ toString toolsets ++ " toolset(s)"

def LogRecord.line (r : LogRecord) : String :=
  (match r.level with
    | .debug => "DEBUG "
    | .warn => "WARN ") ++ r.text

end Toolbridge
