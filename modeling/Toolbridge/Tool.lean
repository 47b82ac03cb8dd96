import Toolbridge.Attribute.Basic
import Toolbridge.Go.Identifier
import Toolbridge.Text.Lowercase

set_option autoImplicit false

namespace Toolbridge

structure Service where
  name : String
  /-- The directory of the generated package under the generated root. -/
  pathName : String
deriving DecidableEq, Repr, Inhabited

def pathNameOf (name : String) : String :=
  String.ofList ((Text.lowercase name).toList.map fun c =>
    if c = '-' ∨ c = ' ' ∨ c = '.' then '_' else c)

def Service.ofName (name : String) : Service := { name, pathName := pathNameOf name }

def trimSlashes (path : String) : String :=
  String.ofList (path.toList.reverse.dropWhile (· = '/')).reverse

def joinImportPath (root segment : String) : String :=
  if (trimSlashes root).isEmpty then segment else trimSlashes root ++ "/" ++ segment

def Service.importPath (s : Service) (root : String) : String := joinImportPath root s.pathName

def Service.package (s : Service) : String := Go.packageName s.pathName

def lastSegment (separator : Char) (s : String) : String :=
  String.ofList (s.toList.reverse.takeWhile (· ≠ separator)).reverse

structure MethodBinding where
  name : String
  payload : Attribute
  result : Attribute
  payloadRef : Option String := none
  resultRef : Option String := none
deriving Inhabited

/-- A field of the method result that goes to the host beside the tool result. -/
structure Projection where
  kind : String
  field : String
  schema : Option Attribute := none
deriving Inhabited

structure Tool where
  name : String
  qualifiedName : String
  args : Attribute := {}
  result : Attribute := {}
  method : Option MethodBinding := none
  serverData : List Projection := []
deriving Inhabited

structure Toolset where
  name : String
  specsDir : Option String := none
  specsPackage : String
  sourceService : Option Service := none
  tools : List Tool := []
deriving Inhabited

def Projection.goKind (p : Projection) : String := Go.identifier true p.kind

def Tool.qualify (toolset tool : String) : String := toolset ++ "." ++ tool

def Tool.goName (t : Tool) : String := Go.identifier true t.name

def Toolset.defaultPackage (name : String) : String := Go.packageName (lastSegment '.' name)

end Toolbridge
