import Toolbridge.Attribute.References
import Toolbridge.Design.Document
import Toolbridge.Plan.Planner
import Toolbridge.Text.Quoted

set_option autoImplicit false

namespace Toolbridge

structure Design where
  service : Service
  root : Option String := none
  catalog : Catalog
  toolsets : List Toolset
deriving Inhabited

namespace Design

inductive ResolutionError where
  | unknownType (place name : String)
  | unknownService (place name : String)
  | undeclaredField (place field : String)
deriving DecidableEq, Repr

def ResolutionError.message : ResolutionError → String
  | .unknownType place name => place ++ ": unknown type " ++ Text.quote name
  | .unknownService place name => place ++ ": unknown service " ++ Text.quote name
  | .undeclaredField place field =>
    place ++ ": required field " ++ Text.quote field ++ " is not declared"

abbrev Resolving := Except ResolutionError

def ServiceDecl.service (s : ServiceDecl) : Service :=
  { name := s.name, pathName := s.pathName.getD (pathNameOf s.name) }

/-- Of several services of a name the last one counts, and the design's own comes first. -/
def DesignDoc.service? (d : DesignDoc) (name : String) : Option Service :=
  ((d.service :: d.services).reverse.find? (·.name == name)).map (·.service)

def DesignDoc.typeId? (d : DesignDoc) (name : String) : Option TypeId :=
  d.types.findIdx? (·.name == name)

def DesignDoc.serviceAt (d : DesignDoc) (place name : String) : Resolving Service :=
  match d.service? name with
  | some s => .ok s
  | none => .error (.unknownService place name)

def DesignDoc.named (d : DesignDoc) (place name : String) : Resolving Attribute :=
  match Primitive.ofName? name with
  | some p => .ok (.ofType (.primitive p))
  | none =>
    match d.typeId? name with
    | some id => .ok (.ofType (.user id))
    | none => .error (.unknownType place name)

def fieldPlace (place name : String) : String := place ++ "." ++ name

def memberPlace (place name : String) : String := place ++ "<" ++ name ++ ">"

mutual
/-- The attribute that an expression at a place writes. An outer default takes the place of an inner
one. -/
def DesignDoc.attribute (d : DesignDoc) (place : String) : TypeExpr → Resolving Attribute
  | .name name => d.named place name
  | .object fields required => do
    let members ← d.members (fieldPlace place) fields
    match required.find? fun name => !(members.map (·.name)).contains name with
    | some missing => .error (.undeclaredField place missing)
    | none => pure { type := some (.object members), required }
  | .array element => do
    let element ← d.attribute (place ++ "[]") element
    pure (.ofType (.array element))
  | .map key value => do
    let key ← d.attribute (place ++ "[key]") key
    let value ← d.attribute (place ++ "[value]") value
    pure (.ofType (.map key value))
  | .union members => do
    let members ← d.members (memberPlace place) members
    pure (.ofType (.union members))
  | .withDefault type default => do
    let a ← d.attribute place type
    pure { a with default := default.or a.default }
def DesignDoc.members (d : DesignDoc) (placeOf : String → String) :
    List (String × TypeExpr) → Resolving (List Member)
  | [] => pure []
  | (name, type) :: rest => do
    let attr ← d.attribute (placeOf name) type
    let others ← d.members placeOf rest
    pure (⟨name, attr⟩ :: others)
end

def DesignDoc.attributeOr (d : DesignDoc) (place : String) : Option TypeExpr → Resolving Attribute
  | some type => d.attribute place type
  | none => pure {}

def typePlace (t : TypeDecl) : String := "types." ++ t.name

def DesignDoc.owner (d : DesignDoc) (t : TypeDecl) : Resolving (Option String) :=
  match t.service with
  | none => pure none
  | some name => do
    let s ← d.serviceAt (typePlace t) name
    pure (some s.pathName)

def userType (t : TypeDecl) (owner : Option String) (body : Attribute) : UserType :=
  { name := t.name, service := owner, location := t.location, body }

def DesignDoc.resolveCatalog (d : DesignDoc) : Resolving Catalog := do
  let owners ← d.types.mapM d.owner
  let bodies ← d.types.mapM fun t => d.attribute (typePlace t) t.type
  pure ⟨(d.types.zip (owners.zip bodies)).map fun (t, owner, body) => userType t owner body⟩

def DesignDoc.resolveMethod (d : DesignDoc) (place : String) (m : MethodDecl) :
    Resolving MethodBinding := do
  let payload ← d.attributeOr (place ++ ".method.payload") m.payload
  let result ← d.attributeOr (place ++ ".method.result") m.result
  pure { name := m.name, payload, result, payloadRef := m.payloadRef, resultRef := m.resultRef }

def DesignDoc.resolveProjection (d : DesignDoc) (place : String) (p : ProjectionDecl) :
    Resolving Projection := do
  let schema ← p.schema.mapM (d.attribute (place ++ ".server_data." ++ p.kind))
  pure { kind := p.kind, field := p.field, schema }

def DesignDoc.resolveTool (d : DesignDoc) (toolset : String) (t : ToolDecl) : Resolving Tool := do
  let place := "toolsets." ++ toolset ++ ".tools." ++ t.name
  let args ← d.attributeOr (place ++ ".args") t.args
  let result ← d.attributeOr (place ++ ".return") t.result
  let method ← t.method.mapM (d.resolveMethod place)
  let serverData ← t.serverData.mapM (d.resolveProjection place)
  pure { name := t.name, qualifiedName := Tool.qualify toolset t.name, args, result, method,
         serverData }

def DesignDoc.sourceService (d : DesignDoc) (s : ToolsetDecl) : Resolving Service :=
  match s.sourceService with
  | some name => d.serviceAt ("toolsets." ++ s.name) name
  | none => pure d.service.service

def DesignDoc.resolveToolset (d : DesignDoc) (s : ToolsetDecl) : Resolving Toolset := do
  let service ← d.sourceService s
  let tools ← s.tools.mapM (d.resolveTool s.name)
  pure { name := s.name, specsDir := s.specsDir,
         specsPackage := s.specsPackage.getD (Toolset.defaultPackage s.name),
         sourceService := some service, tools }

def DesignDoc.resolve (d : DesignDoc) : Resolving Design := do
  let catalog ← d.resolveCatalog
  let toolsets ← d.toolsets.mapM d.resolveToolset
  pure { service := d.service.service, root := d.root, catalog, toolsets }

end Design

namespace Design

def toolset? (d : Design) (name : String) : Option Toolset := d.toolsets.find? (·.name == name)

def toolAttributes (t : Tool) : List Attribute :=
  t.args :: t.result ::
    ((t.method.elim [] fun m => [m.payload, m.result]) ++ t.serverData.filterMap (·.schema))

/-- The user types in use, in the order in which they are met: first those that the tools refer to,
then those in the bodies of types met before. -/
def usedTypes (d : Design) : List UserType :=
  (d.catalog.reach (d.toolsets.flatMap fun s => s.tools.flatMap toolAttributes)).map d.catalog.get

def logRecord (d : Design) : LogRecord :=
  .resolved d.service.name d.catalog.types.length d.toolsets.length

end Design
end Toolbridge
