import Toolbridge.Proofs.Go.Fields
import Toolbridge.Proofs.Plan.FunctionNames

set_option autoImplicit false

namespace Toolbridge

theorem Conversion.ObjectParts.append_empty (p : ObjectParts) : p.append {} = p := by
  unfold append
  rw [List.append_nil, List.append_nil]

namespace Planner

open Conversion (Frame Task Emit ObjectParts objectParts primitiveField)

/-- A function of the plan is for the projection, of a field with the attribute `source`. -/
structure Projects (s : Setting) (p : Plan) (tool : Tool) (method : MethodBinding)
    (projection : Projection) (source : Attribute) (f : PlannedFunction) : Prop where
  field : s.catalog.field? method.result projection.field = some source
  full : source.isEmpty = false
  planned : f ∈ p.functions
  function : ∃ target body, f = projectionFunction s tool method projection source target body

/-- The field may be absent, and its type is a user type that stands for a primitive. -/
structure OptionalAlias (c : Catalog) (result : Attribute) (field : String) (source : Attribute) :
    Prop where
  named : field ≠ ""
  optional : c.isRequired result field = false
  indirect : source.isPrimitive = false
  primitive : (c.resolvedPrimitive? source).isSome = true

/-- A conversion of the whole result reads the field into another primitive one, through a pointer
or not. -/
def ReadsField (c : Catalog) (result : Attribute) (field : String) (source : Attribute)
    (pointer : Bool) : Prop :=
  ∀ (f : Frame) (convert : Task → Emit (List Go.Stmt)) (t : Task) (target : Attribute)
    (fields : List Member) (other : Member), f.catalog = c → f.source.useDefault = true →
      (c.resolve result).type = some (.object fields) → other.name = field →
        (c.resolvedPrimitive? source).isSome = true →
          (c.resolvedPrimitive? other.attr).isSome = true →
            objectParts f convert t (c.resolve result) target fields [other] =
              pure (primitiveField f pointer
                (c.isPrimitivePointer target field f.target.useDefault) source other.attr
                (Go.identifier true field) (.select t.sourceExpr (Go.identifier true field))
                (.select t.targetExpr (Go.identifier true field)))

def parameter (s : Setting) (method : MethodBinding) (projection : Projection)
    (source : Attribute) : String :=
  if projectionPointer s method projection source then
    pointerTo (Go.typeRef s.catalog (projectionPackage s source) source)
  else Go.typeRef s.catalog (projectionPackage s source) source

def projectedType (s : Setting) (method : MethodBinding) (projection : Projection)
    (source : Attribute) : String :=
  Go.fieldType s.catalog (projectionPackage s source) method.result projection.field source

/-- When the parameter has the type of the field. The struct spells the field so, and conversions
of the whole result follow the pointer that is spelled. -/
structure FieldParameter (s : Setting) (method : MethodBinding) (projection : Projection)
    (source : Attribute) (param : String) : Prop where
  same : param = projectedType s method projection source ↔
    (OptionalAlias s.catalog method.result projection.field source →
      Go.isPointerRef (Go.typeRef s.catalog (projectionPackage s source) source) = true) ∧
    (projection.field = "" →
      s.catalog.isPrimitivePointer method.result projection.field true = false)
  spelled : ∀ fields, (s.catalog.resolve method.result).type = some (.object fields) →
    Go.identifier true projection.field ++ " " ++ projectedType s method projection source ∈
      Go.memberRefs s.catalog s.servicePackage (s.catalog.resolve method.result) fields
  read : ReadsField s.catalog method.result projection.field source
    (s.catalog.isPrimitivePointer method.result projection.field true)

section Parameter

variable {s : Setting} {method : MethodBinding} {projection : Projection} {source : Attribute}
  {c : Catalog} {result : Attribute} {name : String}

theorem typeRef_projectionPackage (s : Setting) (source : Attribute) :
    Go.typeRef s.catalog (projectionPackage s source) source =
      Go.typeRef s.catalog s.servicePackage source := by
  unfold projectionPackage
  cases placed : s.catalog.location? source with
  | none => rfl
  | some l => exact Go.typeRef_located (Option.isSome_iff_exists.mpr ⟨l, placed⟩) _ _

theorem pointerTo_eq_iff {reference : String} :
    pointerTo reference = reference ↔ Go.isPointerRef reference = true := by
  unfold pointerTo
  split
  · rename_i pointer
    exact iff_of_true rfl pointer
  · rename_i plain
    refine iff_of_false (fun same => plain ?_) plain
    rw [← same]
    exact Go.isPointerRef_append _

theorem projectionGuard_eq (named : projection.field ≠ "") (full : source.isEmpty = false) :
    projectionGuard s method projection source =
      (!s.catalog.isRequired method.result projection.field &&
        (!source.isPrimitive ||
          s.catalog.isPrimitivePointer method.result projection.field true)) := by
  have something : projection.field.isEmpty = false := by
    rw [Bool.eq_false_iff, ne_eq, String.isEmpty_iff]
    exact named
  unfold projectionGuard Catalog.needsNilGuard
  dsimp only
  rw [something, full]
  cases s.catalog.isRequired method.result projection.field <;> cases source.isPrimitive <;>
    simp

theorem projectionGuard_unnamed (unnamed : projection.field = "") :
    projectionGuard s method projection source = false := by
  unfold projectionGuard Catalog.needsNilGuard
  rw [unnamed]
  rfl

theorem not_required_of_pointer {useDefault : Bool}
    (pointer : c.isPrimitivePointer result name useDefault = true) :
    c.isRequired result name = false := by
  unfold Catalog.isPrimitivePointer at pointer
  split at pointer
  · cases pointer
  · split at pointer
    · cases pointer
    · simp only [Bool.and_eq_true, Bool.not_eq_true'] at pointer
      exact pointer.1.2

theorem projectionPointer_eq (named : projection.field ≠ "") (full : source.isEmpty = false) :
    projectionPointer s method projection source =
      if source.isPrimitive then s.catalog.isPrimitivePointer method.result projection.field true
      else !s.catalog.isRequired method.result projection.field &&
        (s.catalog.resolvedPrimitive? source).isSome := by
  unfold projectionPointer
  rw [projectionGuard_eq named full]
  cases direct : source.isPrimitive with
  | false =>
    rw [if_neg Bool.false_ne_true]
    simp
  | true =>
    obtain ⟨q, primitive⟩ := Option.isSome_iff_exists.mp direct
    rw [if_pos rfl, Catalog.resolvedPrimitive?_of_primitive primitive]
    cases pointer : s.catalog.isPrimitivePointer method.result projection.field true with
    | false => simp
    | true => rw [not_required_of_pointer pointer]; rfl

theorem parameter_unnamed (unnamed : projection.field = "") :
    parameter s method projection source = projectedType s method projection source ↔
      s.catalog.isPrimitivePointer method.result projection.field true = false := by
  have noPointer : projectionPointer s method projection source = false := by
    unfold projectionPointer
    rw [projectionGuard_unnamed unnamed]
    rfl
  unfold parameter projectedType Go.fieldType
  rw [noPointer]
  cases s.catalog.isPrimitivePointer method.result projection.field true with
  | false => exact iff_of_true String.empty_append.symm rfl
  | true =>
    refine iff_of_false (fun same => ?_) nofun
    have lengths := congrArg String.length same
    rw [if_neg Bool.false_ne_true, if_pos rfl, String.length_append] at lengths
    have one : "*".length = 1 := rfl
    omega

theorem parameter_direct (named : projection.field ≠ "") (full : source.isEmpty = false)
    (direct : source.isPrimitive = true) :
    parameter s method projection source = projectedType s method projection source := by
  obtain ⟨q, primitive⟩ := Option.isSome_iff_exists.mp direct
  unfold parameter projectedType Go.fieldType
  rw [projectionPointer_eq named full, direct, if_pos rfl, Go.typeRef_primitive primitive]
  cases s.catalog.isPrimitivePointer method.result projection.field true with
  | false => exact String.empty_append.symm
  | true =>
    rw [if_pos rfl, if_pos rfl]
    unfold pointerTo
    rw [Go.isPointerRef_goName, if_neg Bool.false_ne_true]

theorem parameter_indirect (named : projection.field ≠ "") (full : source.isEmpty = false)
    (field : s.catalog.field? method.result projection.field = some source)
    (indirect : source.isPrimitive = false) :
    parameter s method projection source = projectedType s method projection source ↔
      (OptionalAlias s.catalog method.result projection.field source →
        Go.isPointerRef (Go.typeRef s.catalog (projectionPackage s source) source) = true) := by
  have value : s.catalog.isPrimitivePointer method.result projection.field true = false := by
    have other : source.primitive? = none := by
      simpa [Attribute.isPrimitive] using indirect
    rw [Catalog.isPrimitivePointer_eq field, other]
    rfl
  unfold parameter projectedType Go.fieldType
  rw [projectionPointer_eq named full, indirect, value, if_neg Bool.false_ne_true,
    if_neg Bool.false_ne_true, String.empty_append]
  cases optional : !s.catalog.isRequired method.result projection.field &&
    (s.catalog.resolvedPrimitive? source).isSome with
  | false =>
    refine iff_of_true rfl fun aliased => ?_
    rw [aliased.optional, aliased.primitive] at optional
    cases optional
  | true =>
    simp only [Bool.and_eq_true, Bool.not_eq_true'] at optional
    have aliased : OptionalAlias s.catalog method.result projection.field source :=
      ⟨named, optional.1, indirect, optional.2⟩
    exact pointerTo_eq_iff.trans ⟨fun pointer _ => pointer, fun pointer => pointer aliased⟩

/-- The parameter is the field's type, but for optional names of primitives. -/
theorem parameter_eq_iff (full : source.isEmpty = false)
    (field : s.catalog.field? method.result projection.field = some source) :
    parameter s method projection source = projectedType s method projection source ↔
      (OptionalAlias s.catalog method.result projection.field source →
        Go.isPointerRef (Go.typeRef s.catalog (projectionPackage s source) source) = true) ∧
      (projection.field = "" →
        s.catalog.isPrimitivePointer method.result projection.field true = false) := by
  by_cases named : projection.field = ""
  · refine (parameter_unnamed named).trans ⟨fun value => ?_, fun h => h.2 named⟩
    exact ⟨fun aliased => absurd named aliased.named, fun _ => value⟩
  · cases direct : source.isPrimitive with
    | true =>
      refine iff_of_true (parameter_direct named full direct) ?_
      refine ⟨fun aliased => ?_, fun unnamed => absurd unnamed named⟩
      rw [aliased.indirect] at direct
      cases direct
    | false =>
      refine (parameter_indirect named full field direct).trans ?_
      exact ⟨fun h => ⟨h, fun unnamed => absurd unnamed named⟩, fun h => h.1⟩

theorem fieldRef_mem (field : s.catalog.field? method.result projection.field = some source)
    {fields : List Member} (object : (s.catalog.resolve method.result).type = some (.object fields)) :
    Go.identifier true projection.field ++ " " ++ projectedType s method projection source ∈
      Go.memberRefs s.catalog s.servicePackage (s.catalog.resolve method.result) fields := by
  obtain ⟨fields', m, object', first, rfl⟩ := Catalog.object_of_field? field
  obtain ⟨mem, name⟩ := Members.find?_mem first
  rw [object] at object'
  cases object'
  rw [Go.memberRefs_eq_map]
  refine List.mem_map.mpr ⟨m, mem, ?_⟩
  unfold Go.fieldRef projectedType Go.fieldType
  rw [name, Catalog.isPrimitivePointer_resolve object, typeRef_projectionPackage]

theorem readsField (field : c.field? result name = some source) :
    ReadsField c result name source (c.isPrimitivePointer result name true) := by
  intro f convert t target fields other catalog useDefault object same primitive primitive'
  subst catalog
  obtain ⟨fields', m, object', first, rfl⟩ := Catalog.object_of_field? field
  obtain ⟨mem, named⟩ := Members.find?_mem first
  rw [object] at object'
  cases object'
  have both : ((f.catalog.resolvedPrimitive? m.attr).isSome &&
      (f.catalog.resolvedPrimitive? other.attr).isSome) = true := by
    rw [primitive, primitive']
    rfl
  unfold objectParts objectParts
  rw [same, first]
  dsimp only
  rw [both, if_pos rfl, named, useDefault, Catalog.isPrimitivePointer_resolve object]
  rw [pure_bind, pure_bind, ObjectParts.append_empty]

end Parameter

section Plans

variable {s : Setting} {p : Plan} {service : Service} {tool : Tool} {method : MethodBinding}
  {projection : Projection} {source : Attribute} {f : PlannedFunction}

theorem projects_of_made (made : MadeOf s service p) (mem : tool ∈ s.toolset.tools)
    (bound : tool.method = some method) (declared : projection ∈ tool.serverData) {k : Converted}
    (converted : serverDataConversion? s tool method projection = some k) :
    Projects s p tool method projection k.source k.function := by
  have asked : Asked s s.toolset.tools k _ := .projection mem bound declared converted
  have planned : k.function ∈ p.functions := by
    rw [made.functions]
    exact List.mem_map_of_mem asked.mem
  obtain ⟨source, target, output, field, full, -, -, rfl⟩ :=
    serverDataConversion?_eq_some converted
  exact ⟨field, full, planned, target, output.body, rfl⟩

theorem Projects.name (h : Projects s p tool method projection source f) :
    f.name = "Init" ++ tool.goName ++ projection.goKind ++ "ServerData" := by
  obtain ⟨target, body, rfl⟩ := h.function
  rfl

theorem Projects.fieldParameter (h : Projects s p tool method projection source f) :
    FieldParameter s method projection source f.paramType := by
  obtain ⟨target, body, rfl⟩ := h.function
  exact ⟨parameter_eq_iff h.full h.field, fun fields => fieldRef_mem h.field, readsField h.field⟩

end Plans

theorem projections_projected {c : Catalog} {root : String} {t : Toolset} {p : Plan}
    (planned : (planToolset c root t).outcome = .ok (some p)) :
    ∃ service, t.sourceService = some service ∧
      MadeOf (goSetting c root t service (SpecsIndex.ofToolset c t)) service p ∧
        ∀ tool ∈ t.tools, ∀ method, tool.method = some method →
          ∀ projection ∈ tool.serverData, ∃ source f,
            Projects (goSetting c root t service (SpecsIndex.ofToolset c t)) p tool method
              projection source f := by
  obtain ⟨service, given, made⟩ := planWith_ok (Conversion.engine_steady c) planned
  rcases planned_cases planned with ⟨nothing, -⟩ | ⟨_, service', e, d, given', went, -⟩
  · cases nothing
  obtain rfl := Option.some.inj (given.symm.trans given')
  refine ⟨service, given, made, fun tool mem method bound projection declared => ?_⟩
  have converted := serverData_converted
    (s := goSetting c root t service (SpecsIndex.ofToolset c t)) (Conversion.engine_steady c) went
    tool mem method bound projection declared
  obtain ⟨k, converted⟩ := Option.isSome_iff_exists.mp converted
  exact ⟨k.source, k.function, projects_of_made made mem bound declared converted⟩

/-- The function for a projection takes what the field holds, unless that is an optional value of
a type that stands for a primitive. -/
theorem server_data_parameters {c : Catalog} {root : String} {t : Toolset} {p : Plan}
    (planned : (planToolset c root t).outcome = .ok (some p)) :
    ∃ service, t.sourceService = some service ∧
      ∀ tool ∈ t.tools, ∀ method, tool.method = some method →
        ∀ projection ∈ tool.serverData, ∃ source f,
          Projects (goSetting c root t service (SpecsIndex.ofToolset c t)) p tool method projection
            source f ∧
          FieldParameter (goSetting c root t service (SpecsIndex.ofToolset c t)) method projection
            source f.paramType := by
  obtain ⟨service, given, -, projected⟩ := projections_projected planned
  refine ⟨service, given, fun tool mem method bound projection declared => ?_⟩
  obtain ⟨source, f, projects⟩ := projected tool mem method bound projection declared
  exact ⟨source, f, projects, projects.fieldParameter⟩

/-! A tool `fetch` passes on data of a type that stands for bytes, and a title. -/
namespace Fetched

def catalog : Catalog :=
  ⟨[{ name := "Blob", service := some "alpha", body := .ofType (.primitive .bytes) }]⟩

def blob : Attribute := .ofType (.user 0)

def method (required : List String) : MethodBinding :=
  { name := "Fetch", payload := {},
    result :=
      { type := some (.object [⟨"data", blob⟩, ⟨"title", .ofType (.primitive .string)⟩]),
        required },
    payloadRef := some "string", resultRef := some "*alpha.FetchResult" }

def data : Projection := { kind := "data", field := "data" }

def title : Projection := { kind := "title", field := "title" }

def tool (required : List String) : Tool :=
  { name := "fetch", qualifiedName := "alpha.ops.fetch", method := some (method required),
    serverData := [data, title] }

def alpha : Service := ⟨"alpha", "alpha"⟩

def toolset (required : List String) : Toolset :=
  { name := "alpha.ops", specsDir := some "gen/docs", specsPackage := "ops",
    sourceService := some alpha, tools := [tool required] }

def run (required : List String) : PlanRun :=
  planToolset catalog "example.com/gen" (toolset required)

def setting (required : List String) : Setting :=
  goSetting catalog "example.com/gen" (toolset required) alpha
    (SpecsIndex.ofToolset catalog (toolset required))

def params? (required : List String) : Option (List (String × String)) :=
  (run required).outcome.toOption.join.map fun p => p.functions.map fun f => (f.name, f.paramType)

theorem blob_behind_pointer :
    ∃ p f, (run []).outcome = .ok (some p) ∧
      Projects (setting []) p (tool []) (method []) data blob f ∧
        f.paramType = "*alpha.Blob" ∧
          projectedType (setting []) (method []) data blob = "alpha.Blob" := by
  have summary : params? [] = some [("InitFetchDataServerData", "*alpha.Blob"),
      ("InitFetchTitleServerData", "*string")] := by
    decide +kernel
  obtain ⟨p, planned, params⟩ : ∃ p, (run []).outcome = .ok (some p) ∧
      p.functions.map (fun f => (f.name, f.paramType)) = _ := planned_of_summary summary
  obtain ⟨service, given, -, projected⟩ := projections_projected planned
  obtain rfl := Option.some.inj given
  obtain ⟨source, f, projects⟩ := projected (tool []) List.mem_cons_self (method []) rfl data
    List.mem_cons_self
  obtain rfl : blob = source := Option.some.inj (projects.field)
  have mem : (f.name, f.paramType) ∈ p.functions.map fun f => (f.name, f.paramType) :=
    List.mem_map_of_mem projects.planned
  have name : f.name = "InitFetchDataServerData" := projects.name.trans (by decide +kernel)
  rw [params, name] at mem
  have param : f.paramType = "*alpha.Blob" := by simpa using mem
  exact ⟨p, f, planned, projects, param, by decide +kernel⟩

theorem required_blob :
    ∃ p, (run ["data"]).outcome = .ok (some p) ∧
      p.functions.map (·.paramType) = ["alpha.Blob", "*string"] ∧
        ∀ projection ∈ [data, title], ∃ source f,
          Projects (setting ["data"]) p (tool ["data"]) (method ["data"]) projection source f ∧
            f.paramType = projectedType (setting ["data"]) (method ["data"]) projection source := by
  have summary : params? ["data"] = some [("InitFetchDataServerData", "alpha.Blob"),
      ("InitFetchTitleServerData", "*string")] := by
    decide +kernel
  obtain ⟨p, planned, params⟩ : ∃ p, (run ["data"]).outcome = .ok (some p) ∧
      p.functions.map (fun f => (f.name, f.paramType)) = _ := planned_of_summary summary
  obtain ⟨service, given, each⟩ := server_data_parameters planned
  obtain rfl := Option.some.inj given
  refine ⟨p, planned, ?_, fun projection mem => ?_⟩
  · have second := congrArg (List.map Prod.snd) params
    rwa [List.map_map] at second
  obtain ⟨source, f, projects, parameter⟩ := each (tool ["data"]) List.mem_cons_self
    (method ["data"]) rfl projection mem
  refine ⟨source, f, projects, parameter.same.mpr ⟨fun aliased => ?_, fun unnamed => ?_⟩⟩
  · -- The data is required, and the title is a primitive itself.
    rcases List.mem_cons.mp mem with rfl | mem
    · exact absurd aliased.optional (by decide +kernel)
    · obtain rfl := List.mem_singleton.mp mem
      obtain rfl : Attribute.ofType (.primitive .string) = source :=
        Option.some.inj projects.field
      exact absurd aliased.indirect (by decide)
  · rcases List.mem_cons.mp mem with rfl | mem
    · exact absurd unnamed (by decide)
    · obtain rfl := List.mem_singleton.mp mem
      exact absurd unnamed (by decide)

end Fetched

end Planner
end Toolbridge
