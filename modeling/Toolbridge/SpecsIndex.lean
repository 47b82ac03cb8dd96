import Toolbridge.Keyed
import Toolbridge.Tool

set_option autoImplicit false

namespace Toolbridge

def payloadTypeName (t : Tool) : String := t.goName ++ "Payload"

def resultTypeName (t : Tool) : String := t.goName ++ "Result"

def serverDataTypeName (t : Tool) (p : Projection) : String :=
  t.goName ++ p.goKind ++ "ServerData"

structure SpecsIndex where
  entries : List (String × Attribute) := []
deriving Inhabited

namespace SpecsIndex

def localType (c : Catalog) (name : String) (a : Attribute) : Attribute :=
  if a.isPrimitive || (c.location? a).isSome then a else .ofType (.named name a)

/-- The empty attribute is not entered. -/
def insert (c : Catalog) (index : SpecsIndex) (name : String) (a : Attribute) : SpecsIndex :=
  if a.isEmpty then index else ⟨Keyed.put name (localType c name a) index.entries⟩

def get? (index : SpecsIndex) (name : String) : Option Attribute := index.entries.lookup name

def remove (index : SpecsIndex) (name : String) : SpecsIndex :=
  ⟨index.entries.filter (·.1 != name)⟩

def size (index : SpecsIndex) : Nat := index.entries.length

def isEmpty (index : SpecsIndex) : Bool := index.entries.isEmpty

/-- The shape of server data: its schema, else that of the method result field. -/
def projectionShape? (c : Catalog) (t : Tool) (p : Projection) : Option Attribute :=
  match p.schema with
  | some schema => some schema
  | none => t.method.bind fun m => c.field? m.result p.field

def insertProjection (c : Catalog) (t : Tool) (index : SpecsIndex) (p : Projection) : SpecsIndex :=
  match projectionShape? c t p with
  | some shape => index.insert c (serverDataTypeName t p) shape
  | none => index

def insertTool (c : Catalog) (index : SpecsIndex) (t : Tool) : SpecsIndex :=
  t.serverData.foldl (insertProjection c t)
    ((index.insert c (payloadTypeName t) t.args).insert c (resultTypeName t) t.result)

def ofToolset (c : Catalog) (s : Toolset) : SpecsIndex := s.tools.foldl (insertTool c) {}

end SpecsIndex
end Toolbridge
