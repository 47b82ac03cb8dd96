import Toolbridge.Attribute.Basic
import Toolbridge.Design.TypeExpr
import Toolbridge.Yaml.Node.OfTokens
import Toolbridge.Yaml.Reading
import Toolbridge.Yaml.Token.Lexer

set_option autoImplicit false

namespace Toolbridge.Design

structure ServiceDecl where
  name : String
  pathName : Option String := none
deriving DecidableEq, Repr, Inhabited

structure TypeDecl where
  name : String
  service : Option String := none
  location : Option TypeLocation := none
  type : TypeExpr
deriving Inhabited

structure MethodDecl where
  name : String
  payload : Option TypeExpr := none
  result : Option TypeExpr := none
  payloadRef : Option String := none
  resultRef : Option String := none
deriving Inhabited

structure ProjectionDecl where
  kind : String := ""
  field : String := ""
  schema : Option TypeExpr := none
deriving Inhabited

structure ToolDecl where
  name : String := ""
  args : Option TypeExpr := none
  result : Option TypeExpr := none
  method : Option MethodDecl := none
  serverData : List ProjectionDecl := []
deriving Inhabited

structure ToolsetDecl where
  name : String
  specsDir : Option String := none
  specsPackage : Option String := none
  sourceService : Option String := none
  tools : List ToolDecl := []
deriving Inhabited

/-- `service` is the one the agents are declared in. -/
structure DesignDoc where
  service : ServiceDecl
  root : Option String := none
  services : List ServiceDecl := []
  types : List TypeDecl := []
  toolsets : List ToolsetDecl := []
deriving Inhabited

section Readers

open Yaml Yaml.Reading

variable (d : Yaml.Document)

def serviceDecl (depth : Nat) : Node → Reading ServiceDecl :=
  record d depth ["name", "path_name"] fun _ es => do
    pure { name := ← required es "name" (text d),
           pathName := ← optionalEntry d es "path_name" (text d) }

def location (depth : Nat) : Node → Reading TypeLocation :=
  record d depth ["path", "name"] fun _ es => do
    pure { path := ← required es "path" (text d), package := ← required es "name" (text d) }

def typeExpr (depth : Nat) (n : Node) : Reading TypeExpr := do
  match TypeExpr.ofValue? depth (← value d depth n) with
  | some e => pure e
  | none => fail

/-- A user type without its name, which is the key it stands under. -/
def typeDecl (depth : Nat) : Node → Reading TypeDecl :=
  record d depth ["service", "location", "type"] fun depth es => do
    pure { name := "", service := ← optionalEntry d es "service" (text d),
           location := ← optionalEntry d es "location" (location d depth),
           type := ← required es "type" (typeExpr d depth) }

def methodDecl (depth : Nat) : Node → Reading MethodDecl :=
  record d depth ["name", "payload", "result", "payload_ref", "result_ref"] fun depth es => do
    pure { name := ← required es "name" (text d),
           payload := ← optionalEntry d es "payload" (typeExpr d depth),
           result := ← optionalEntry d es "result" (typeExpr d depth),
           payloadRef := ← optionalEntry d es "payload_ref" (text d),
           resultRef := ← optionalEntry d es "result_ref" (text d) }

def projectionDecl (depth : Nat) : Node → Reading ProjectionDecl :=
  record d depth ["kind", "field", "schema"] fun depth es => do
    pure { kind := ← orElse es "kind" "" (text d), field := ← orElse es "field" "" (text d),
           schema := ← optionalEntry d es "schema" (typeExpr d depth) }

def toolDecl (depth : Nat) : Node → Reading ToolDecl :=
  record d depth ["name", "args", "return", "method", "server_data"] fun depth es => do
    pure { name := ← orElse es "name" "" (text d),
           args := ← optionalEntry d es "args" (typeExpr d depth),
           result := ← optionalEntry d es "return" (typeExpr d depth),
           method := ← optionalEntry d es "method" (methodDecl d depth),
           serverData := ← orElse es "server_data" [] (listOf d depth (projectionDecl d)) }

def toolsetDecl (depth : Nat) : Node → Reading ToolsetDecl :=
  record d depth ["name", "specs_dir", "specs_package", "source_service", "tools"]
    fun depth es => do
      pure { name := ← required es "name" (text d),
             specsDir := ← optionalEntry d es "specs_dir" (text d),
             specsPackage := ← optionalEntry d es "specs_package" (text d),
             sourceService := ← optionalEntry d es "source_service" (text d),
             tools := ← orElse es "tools" [] (listOf d depth (toolDecl d)) }

def designDoc (depth : Nat) : Node → Reading DesignDoc :=
  record d depth ["service", "root", "services", "types", "toolsets"] fun depth es => do
    let types ← orElse es "types" [] (keyedOf d depth (typeDecl d))
    pure { service := ← required es "service" (serviceDecl d depth),
           root := ← optionalEntry d es "root" (text d),
           services := ← orElse es "services" [] (listOf d depth (serviceDecl d)),
           types := types.map fun (name, t) => { t with name },
           toolsets := ← orElse es "toolsets" [] (listOf d depth (toolsetDecl d)) }

end Readers

def DesignDoc.ofYaml? (text : String) : Option DesignDoc := do
  let tokens ← Yaml.Token.ofText? text
  let d ← Yaml.Document.ofTokens? tokens
  let (doc, _) ← designDoc d Yaml.Reading.depthLimit d.root 0
  some doc

end Toolbridge.Design
