import Toolbridge.Conversion.Build
import Toolbridge.NilGuard
import Toolbridge.Plan.Basic
import Toolbridge.SpecsIndex

set_option autoImplicit false

/-!
# Planning the conversions of a toolset

For every tool bound to a method: the conversion of its arguments into the method payload, of the
method result into its own result, and of each projected result field into server data. The first
two are left out where the shapes differ or the engine cannot convert them; server data has to be
there, and whatever stands against it is an error.
-/
namespace Toolbridge

/-- What has been gathered for one file, and what happened on the way. The log and the requests to
the engine outlive an error. -/
structure Draft where
  functions : List PlannedFunction := []
  helpers : HelperSet := {}
  imports : PendingImports := {}
  log : List LogRecord := []
  requests : List ConversionRequest := []
deriving Inhabited

abbrev Planner := ExceptT (Stop PlanError) (StateM Draft)

namespace Planner

structure Setting where
  catalog : Catalog
  engine : Engine
  root : String
  toolset : Toolset
  servicePackage : String
  index : SpecsIndex

def fail {α : Type} (e : PlanError) : Planner α := throw (.failed e)

def note (record : LogRecord) : Planner Unit :=
  modify fun d => { d with log := d.log ++ [record] }

def request (engine : Engine) (r : ConversionRequest) :
    Planner (Except (Stop ConversionError) ConversionOutput) := do
  let d ← get
  set { d with requests := d.requests ++ [r] }
  pure (engine d.requests r)

structure End where
  attr : Attribute
  label : String
  package : String

def End.side (e : End) : Go.Side := ⟨e.package, true⟩

def conversionRequest (source target : End) (sourceVar : String) : ConversionRequest :=
  { source := source.attr, target := target.attr, sourceVar, targetVar := "res",
    sourceSide := source.side, targetSide := target.side, helperPrefix := "", byReference := true }

def requiredRef (s : Setting) (tool : Tool) (reference : Option String) (datum : MethodDatum) :
    Planner String :=
  match reference with
  | some text =>
    if text.isEmpty then fail (.missingTypeRef s.toolset.name tool.qualifiedName datum)
    else pure text
  | none => fail (.missingTypeRef s.toolset.name tool.qualifiedName datum)

/-- A blank body is none. It may be left out only if the conversion may be and no helper came with
it. -/
def checkedBody (s : Setting) (tool : Tool) (function : String) (output : ConversionOutput)
    (required : Bool) : Planner (Option ConversionOutput) := do
  if !Text.isBlank output.body then pure (some output)
  else if required || !output.helpers.isEmpty then
    fail (.emptyBody s.toolset.name tool.qualifiedName function output.helpers.length)
  else
    note (.emptyBody tool.qualifiedName function)
    pure none

def optionalConversion (s : Setting) (tool : Tool) (function : String) (source target : End) :
    Planner (Option ConversionOutput) := do
  match s.catalog.checkCompatible source.attr target.attr source.label target.label with
  | .error .unfinished => throw .unfinished
  | .error (.failed e) =>
    note (.incompatible tool.qualifiedName function e)
    pure none
  | .ok () =>
    match ← request s.engine (conversionRequest source target "v") with
    | .error .unfinished => throw .unfinished
    | .error (.failed e) =>
      note (.notConverted tool.qualifiedName function e)
      pure none
    | .ok output => checkedBody s tool function output false

def addFunction (s : Setting) (function : PlannedFunction) (helpers : List Helper)
    (source target : Attribute) : Planner Unit := do
  modify fun d => { d with functions := d.functions ++ [function] }
  let d ← get
  let (extended, conflict) := d.helpers.extend helpers
  set { d with helpers := extended }
  match conflict with
  | some e => fail (.helperConflict e)
  | none =>
    modify fun d => { d with
      imports := (d.imports.addAll (s.catalog.collectImports source s.root)).addAll
        (s.catalog.collectImports target s.root) }

def planPayload (s : Setting) (tool : Tool) (method : MethodBinding) (payloadRef : String) :
    Planner Unit := do
  if tool.args.isEmpty || method.payload.isEmpty then pure ()
  else
    match s.index.get? (payloadTypeName tool) with
    | none => pure ()
    | some own =>
      let name := "Init" ++ tool.goName ++ "MethodPayload"
      let output ← optionalConversion s tool name ⟨own, tool.qualifiedName ++ " payload", ""⟩
        ⟨method.payload, method.name ++ " payload", s.servicePackage⟩
      match output with
      | none => pure ()
      | some output =>
        addFunction s
          { name, paramType := Go.typeRef s.catalog "" own, resultType := payloadRef,
            body := output.body }
          output.helpers own method.payload

def planResult (s : Setting) (tool : Tool) (method : MethodBinding) (resultRef : String) :
    Planner Unit := do
  if tool.result.isEmpty || method.result.isEmpty then pure ()
  else
    match s.index.get? (resultTypeName tool) with
    | none => pure ()
    | some own =>
      let name := "Init" ++ tool.goName ++ "ToolResult"
      let output ← optionalConversion s tool name
        ⟨method.result, method.name ++ " result", s.servicePackage⟩
        ⟨own, tool.qualifiedName ++ " result", ""⟩
      match output with
      | none => pure ()
      | some output =>
        addFunction s
          { name, paramType := resultRef, resultType := Go.typeRef s.catalog "" own,
            body := output.body }
          output.helpers method.result own

def projectedField (s : Setting) (tool : Tool) (method : MethodBinding) (p : Projection) :
    Planner Attribute :=
  match (s.catalog.field? method.result p.field).filter fun a => !a.isEmpty with
  | some a => pure a
  | none => fail (.serverDataFieldMissing s.toolset.name tool.qualifiedName p.kind p.field)

def serverDataType (s : Setting) (tool : Tool) (p : Projection) : Planner Attribute :=
  match s.index.get? (serverDataTypeName tool p) with
  | some a => pure a
  | none =>
    fail (.serverDataTypeMissing s.toolset.name tool.qualifiedName p.kind
      (serverDataTypeName tool p))

def requireCompatible (s : Setting) (tool : Tool) (p : Projection) (source target : End) :
    Planner Unit :=
  match s.catalog.checkCompatible source.attr target.attr source.label target.label with
  | .ok () => pure ()
  | .error (.failed e) =>
    fail (.serverDataIncompatible s.toolset.name tool.qualifiedName p.kind e)
  | .error .unfinished => throw .unfinished

def pointerTo (reference : String) : String :=
  if Go.isPointerRef reference then reference else "*" ++ reference

/-- An optional primitive arrives behind a pointer, which is followed once the guard has run. -/
def planServerData (s : Setting) (tool : Tool) (method : MethodBinding) (p : Projection) :
    Planner Unit := do
  let source ← projectedField s tool method p
  let target ← serverDataType s tool p
  let package := match s.catalog.location? source with
    | some location => location.package
    | none => s.servicePackage
  let origin : End := ⟨source, method.name ++ " result." ++ p.field, package⟩
  let into : End := ⟨target, serverDataTypeName tool p, ""⟩
  requireCompatible s tool p origin into
  let guarded := s.catalog.needsNilGuard (some method.result) p.field (some source)
  let pointer := guarded && (s.catalog.resolvedPrimitive? source).isSome
  let name := "Init" ++ tool.goName ++ p.goKind ++ "ServerData"
  match ← request s.engine (conversionRequest origin into (if pointer then "(*v)" else "v")) with
  | .error .unfinished => throw .unfinished
  | .error (.failed e) => fail (.conversionFailed s.toolset.name tool.qualifiedName name e)
  | .ok output =>
    match ← checkedBody s tool name output true with
    | none => pure ()
    | some output =>
      let reference := Go.typeRef s.catalog package source
      addFunction s
        { name, paramType := if pointer then pointerTo reference else reference,
          resultType := Go.typeRef s.catalog "" target, body := output.body,
          guardsNil := guarded }
        output.helpers source target

def planProjections (s : Setting) (tool : Tool) (method : MethodBinding) :
    List Projection → Planner Unit
  | [] => pure ()
  | p :: rest => do
    planServerData s tool method p
    planProjections s tool method rest

def planTool (s : Setting) (tool : Tool) (method : MethodBinding) : Planner Unit := do
  let payloadRef ← requiredRef s tool method.payloadRef .payload
  let resultRef ← requiredRef s tool method.resultRef .result
  planPayload s tool method payloadRef
  planResult s tool method resultRef
  planProjections s tool method tool.serverData

def planTools (s : Setting) : List Tool → Planner Unit
  | [] => pure ()
  | tool :: rest => do
    match tool.method with
    | none => note (.notMethodBacked tool.qualifiedName)
    | some method => planTool s tool method
    planTools s rest

def planPath (specsDir : String) : String := trimSlashes specsDir ++ "/transforms.go"

def finish (s : Setting) (specsDir : String) (service : Service) : Planner (Option Plan) := do
  let d ← get
  if d.functions.isEmpty then
    note (.nothingToGenerate s.toolset.name)
    pure none
  else
    match ImportBlock.assemble ⟨service.importPath s.root, some s.servicePackage⟩ d.imports with
    | .error e => fail (.importCollision e)
    | .ok imports =>
      note (.planned s.toolset.name d.functions.length d.helpers.size)
      pure (some
        { path := planPath specsDir, package := s.toolset.specsPackage, imports,
          functions := d.functions, helpers := d.helpers.helpers })

def plan (c : Catalog) (engine : Engine) (root : String) (toolset : Toolset)
    (index : SpecsIndex) : Planner (Option Plan) := do
  match toolset.specsDir.filter fun dir => !dir.isEmpty with
  | none =>
    note (.noSpecsDir toolset.name)
    pure none
  | some specsDir =>
    match toolset.sourceService with
    | none =>
      note (.noSourceService toolset.name)
      pure none
    | some service =>
      if toolset.tools.isEmpty then
        note (.noTools toolset.name)
        pure none
      else
        let s : Setting := ⟨c, engine, root, toolset, service.package, index⟩
        planTools s toolset.tools
        finish s specsDir service

end Planner

structure PlanRun where
  outcome : Except (Stop PlanError) (Option Plan)
  log : List LogRecord
  requests : List ConversionRequest

def planWith (c : Catalog) (engine : Engine) (root : String) (toolset : Toolset)
    (index : SpecsIndex) : PlanRun :=
  let (outcome, draft) := (Planner.plan c engine root toolset index).run.run {}
  ⟨outcome, draft.log, draft.requests⟩

/-- Plans a toolset with the engine that writes Go, against the types of its own tools. -/
def planToolset (c : Catalog) (root : String) (toolset : Toolset) : PlanRun :=
  planWith c (Conversion.engine c) root toolset (SpecsIndex.ofToolset c toolset)

end Toolbridge
