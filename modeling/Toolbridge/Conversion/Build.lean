import Toolbridge.Conversion.Basic
import Toolbridge.Go.Code
import Toolbridge.Number.Shortest
import Toolbridge.Json.Printer
import Toolbridge.Text.Quoted

set_option autoImplicit false

/-!
# Building conversions in Go

Statements that convert a value of one attribute into another. Nested pairs of user types go through
helpers, one for each name, which also ends the recursion of recursive types: the name of a helper
is taken before its body is built, and the helper follows those that its body needs.
-/
namespace Toolbridge.Conversion

open Go (Expr Stmt TypeCase Assignment)

/-- What stays the same throughout one conversion. -/
structure Frame where
  catalog : Catalog
  source : Go.Side
  target : Go.Side
  helperPrefix : String
  byReference : Bool

inductive Position where
  | root
  | helper
  | nested
deriving DecidableEq, Repr

structure Task where
  source : Attribute
  target : Attribute
  sourceExpr : Expr
  targetExpr : Expr
  declares : Bool
  depth : Nat
  position : Position

structure HelperCode where
  name : String
  paramType : String
  resultType : String
  body : List Stmt

/-- Names of helpers taken so far, and the finished helpers in order. -/
structure Emitted where
  names : List String := []
  helpers : List HelperCode := []

abbrev Emit := StateT Emitted (Except (Stop ConversionError))

def fail {α : Type} (e : ConversionError) : Emit α := throw (.failed e)

namespace Frame

def sourceRef (f : Frame) (a : Attribute) : String := f.source.typeRef f.catalog a

def targetRef (f : Frame) (a : Attribute) : String := f.target.typeRef f.catalog a

def cast (f : Frame) (source target : Attribute) (e : Expr) : Expr :=
  if f.sourceRef source = f.targetRef target then e else .convert (f.targetRef target) e

def packagePart (package : String) : String :=
  if package.isEmpty then "" else Go.identifier true package

/-- The package qualifiers keep the two directions of one pair of types apart. -/
def helperName (f : Frame) (source target : Attribute) : String :=
  "transform" ++ f.helperPrefix
    ++ packagePart (f.source.packageOf f.catalog source) ++ Go.typeName f.catalog source ++ "To"
    ++ packagePart (f.target.packageOf f.catalog target) ++ Go.typeName f.catalog target

end Frame

def loopVar (base : String) (depth : Nat) : String :=
  if depth = 0 then base else base ++ toString depth

def defaultLiteral? : Json.Value → Option String
  | .string s => some (Text.quote s)
  | .number n => some n.text
  | .bool b => some (if b then "true" else "false")
  | _ => none

structure ObjectParts where
  fields : List (String × Expr) := []
  after : List Stmt := []

def ObjectParts.append (p q : ObjectParts) : ObjectParts :=
  ⟨p.fields ++ q.fields, p.after ++ q.after⟩

def copyThroughPointer (target value : Expr) : List Assignment :=
  [⟨true, .var "tmp", value⟩, ⟨false, target, .addressOf (.var "tmp")⟩]

def primitiveField (f : Frame) (sourcePointer targetPointer : Bool) (source target : Attribute)
    (goField : String) (sourceExpr targetExpr : Expr) : ObjectParts :=
  let same := f.sourceRef source = f.targetRef target
  let value := f.cast source target sourceExpr
  let pointee := f.cast source target (.deref sourceExpr)
  match sourcePointer, targetPointer with
  | false, false => { fields := [(goField, value)] }
  | true, true =>
    if same then { fields := [(goField, sourceExpr)] }
    else { after := [.ifNotNil sourceExpr (copyThroughPointer targetExpr pointee)] }
  | true, false =>
    let fallback := if f.target.useDefault then target.default.bind defaultLiteral? else none
    { after := .ifNotNil sourceExpr [⟨false, targetExpr, pointee⟩] ::
        (match fallback with
          | some text => [.ifNil sourceExpr [⟨false, targetExpr, .literal text⟩]]
          | none => []) }
  | false, true =>
    if same then { fields := [(goField, .addressOf sourceExpr)] }
    else { after := [.scope (copyThroughPointer targetExpr value)] }

/-- Statements of a nested field. Only an inline object is a struct value and cannot be nil. -/
def nestedField (f : Frame) (target : Attribute) (sourceExpr : Expr) (body : List Stmt) :
    List Stmt :=
  if (f.catalog.userType? target).isNone && f.catalog.isObject target then body
  else [.unlessNil sourceExpr body]

/-- The fields of the target in order, each from the first source field of its name; one that the
source lacks is left out. -/
def objectParts (f : Frame) (convert : Task → Emit (List Stmt)) (t : Task)
    (source target : Attribute) (sourceFields : List Member) :
    List Member → Emit ObjectParts
  | [] => pure {}
  | field :: rest => do
    match Members.find? sourceFields field.name with
    | none => objectParts f convert t source target sourceFields rest
    | some other =>
      let goField := Go.identifier true field.name
      let sourceExpr := Expr.select t.sourceExpr goField
      let targetExpr := Expr.select t.targetExpr goField
      let parts ←
        if (f.catalog.resolvedPrimitive? other.attr).isSome
            && (f.catalog.resolvedPrimitive? field.attr).isSome then
          pure (primitiveField f
            (f.catalog.isPrimitivePointer source other.name f.source.useDefault)
            (f.catalog.isPrimitivePointer target field.name f.target.useDefault)
            other.attr field.attr goField sourceExpr targetExpr)
        else do
          let body ← convert ⟨other.attr, field.attr, sourceExpr, targetExpr, false, t.depth + 1,
            .nested⟩
          pure { after := nestedField f field.attr sourceExpr body }
      let others ← objectParts f convert t source target sourceFields rest
      pure (parts.append others)

def literalOpening (f : Frame) (position : Position) (target : Attribute) : String :=
  match (f.targetRef target).toList with
  | '*' :: value =>
    if position = .root ∧ f.byReference = false then String.ofList value
    else "&" ++ String.ofList value
  | _ => f.targetRef target

def convertObject (f : Frame) (convert : Task → Emit (List Stmt)) (t : Task)
    (source target : Attribute) (sourceFields targetFields : List Member) : Emit (List Stmt) := do
  let parts ← objectParts f convert t source target sourceFields targetFields
  pure (.build t.declares t.targetExpr (literalOpening f t.position t.target) parts.fields ::
    parts.after)

/-- One case for each source member. Two members of one Go type could not be told apart. -/
def unionCases (f : Frame) (convert : Task → Emit (List Stmt)) (t : Task)
    (targetMembers : List Member) : List String → List Member → Emit (List TypeCase)
  | _, [] => pure []
  | seen, member :: rest => do
    match Members.find? targetMembers member.name with
    | none => fail (.unsupported t.sourceExpr.text (.noCounterpart member.name))
    | some other =>
      let reference := f.sourceRef member.attr
      if seen.contains reference then
        fail (.unsupported t.sourceExpr.text (.sharedType reference))
      else
        let body ← convert ⟨member.attr, other.attr, .var (loopVar "actual" t.depth), t.targetExpr,
          false, t.depth + 1, .nested⟩
        let cases ← unionCases f convert t targetMembers (reference :: seen) rest
        pure (⟨reference, body⟩ :: cases)

def convertUnion (f : Frame) (convert : Task → Emit (List Stmt)) (t : Task)
    (sourceMembers targetMembers : List Member) : Emit (List Stmt) := do
  let cases ← unionCases f convert t targetMembers [] sourceMembers
  pure ((if t.declares then [.declare t.targetExpr (f.targetRef t.target)] else []) ++
    [.typeSwitch (loopVar "actual" t.depth) t.sourceExpr cases])

def convertArray (f : Frame) (convert : Task → Emit (List Stmt)) (t : Task)
    (sourceElement targetElement : Attribute) : Emit (List Stmt) := do
  let i := loopVar "i" t.depth
  let value := loopVar "val" t.depth
  let body ← convert ⟨sourceElement, targetElement, .var value, .index t.targetExpr i, false,
    t.depth + 1, .nested⟩
  pure [.assign ⟨t.declares, t.targetExpr, .make (f.targetRef t.target) t.sourceExpr⟩,
    .range i value t.sourceExpr [] body]

def convertMap (f : Frame) (convert : Task → Emit (List Stmt)) (t : Task)
    (sourceKey sourceValue targetKey targetValue : Attribute) : Emit (List Stmt) := do
  if (f.catalog.resolvedPrimitive? sourceKey).isNone
      || (f.catalog.resolvedPrimitive? targetKey).isNone then
    fail (.unsupported t.sourceExpr.text .mapKey)
  else
    let key := loopVar "key" t.depth
    let value := loopVar "val" t.depth
    let targetKeyVar := loopVar "tk" t.depth
    let body ← convert ⟨sourceValue, targetValue, .var value, .index t.targetExpr targetKeyVar,
      false, t.depth + 1, .nested⟩
    pure [.assign ⟨t.declares, t.targetExpr, .make (f.targetRef t.target) t.sourceExpr⟩,
      .range key value t.sourceExpr
        [⟨true, .var targetKeyVar, f.cast sourceKey targetKey (.var key)⟩] body]

/-- The name of the helper for a pair, which is built unless the name is taken. -/
def requireHelper (f : Frame) (convert : Task → Emit (List Stmt)) (source target : Attribute) :
    Emit String := do
  let name := f.helperName source target
  let emitted ← get
  if emitted.names.contains name then pure name
  else do
    set { emitted with names := name :: emitted.names }
    let body ← convert ⟨source, target, .var "v", .var "res", true, 0, .helper⟩
    let guarded :=
      if Go.isPointerRef (f.sourceRef source) then .returnNilIfNil "v" :: body else body
    modify fun e => { e with
      helpers := e.helpers ++ [⟨name, f.sourceRef source, f.targetRef target, guarded⟩] }
    pure name

def convertNode (f : Frame) (convert : Task → Emit (List Stmt)) (t : Task) :
    Emit (List Stmt) := do
  if t.source.isEmpty || t.target.isEmpty then
    fail (.unsupported t.sourceExpr.text .emptyAttribute)
  else
    let source := f.catalog.resolve t.source
    let target := f.catalog.resolve t.target
    if t.position = .nested ∧ (f.catalog.userType? t.source).isSome
        ∧ (f.catalog.userType? t.target).isSome ∧ source.isPrimitive = false then do
      let name ← requireHelper f convert t.source t.target
      pure [.assign ⟨t.declares, t.targetExpr, .call name t.sourceExpr⟩]
    else
      match source.type, target.type with
      | some (.primitive _), some (.primitive _) =>
        pure [.assign ⟨t.declares, t.targetExpr, f.cast t.source t.target t.sourceExpr⟩]
      | some (.object sourceFields), some (.object targetFields) =>
        convertObject f convert t source target sourceFields targetFields
      | some (.array sourceElement), some (.array targetElement) =>
        convertArray f convert t sourceElement targetElement
      | some (.map sourceKey sourceValue), some (.map targetKey targetValue) =>
        convertMap f convert t sourceKey sourceValue targetKey targetValue
      | some (.union sourceMembers), some (.union targetMembers) =>
        convertUnion f convert t sourceMembers targetMembers
      | some s, some d => fail (.mismatch t.sourceExpr.text s.kind d.kind)
      | _, _ => fail (.unsupported t.sourceExpr.text .emptyAttribute)

def convertWithin (f : Frame) : Nat → Task → Emit (List Stmt)
  | 0, _ => throw .unfinished
  | depth + 1, t => convertNode f (convertWithin f depth) t

structure Code where
  body : List Stmt
  helpers : List HelperCode

def frameOf (c : Catalog) (r : ConversionRequest) : Frame :=
  { catalog := c, source := r.sourceSide, target := r.targetSide, helperPrefix := r.helperPrefix,
    byReference := r.byReference }

def taskOf (r : ConversionRequest) : Task :=
  ⟨r.source, r.target, .var r.sourceVar, .var r.targetVar, true, 0, .root⟩

def build (c : Catalog) (r : ConversionRequest) : Except (Stop ConversionError) Code :=
  match convertWithin (frameOf c r) (c.depthBound r.source r.target) (taskOf r) {} with
  | .ok (body, emitted) => .ok ⟨body, emitted.helpers⟩
  | .error e => .error e

def HelperCode.render (h : HelperCode) : Helper :=
  ⟨h.name, h.paramType, h.resultType, Go.blockText h.body⟩

def Code.render (code : Code) : ConversionOutput :=
  ⟨Go.blockText code.body, code.helpers.map (·.render)⟩

def engine (c : Catalog) : Engine := fun _ r => (build c r).map (·.render)

end Toolbridge.Conversion
