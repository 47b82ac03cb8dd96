import Toolbridge.Proofs.Conversion.Levels
import Toolbridge.Proofs.Plan.Parameters

set_option autoImplicit false

namespace Toolbridge

/-- The attribute is an object itself. -/
def Attribute.isStruct (a : Attribute) : Bool :=
  match a.type with
  | some (.object _) => true
  | _ => false

/-- Values of the shape can be nil where they are not behind a pointer. -/
def Attribute.hasNil (a : Attribute) : Bool :=
  match a.type with
  | some (.primitive p) => !p.isPointerEligible
  | some (.array _) | some (.map _ _) | some (.union _) => true
  | _ => false

namespace Conversion

variable {c : Catalog} {r : ConversionRequest} {code : Code} {f : Frame}
  {convert : Task → Emit (List Go.Stmt)} {t : Task}

theorem shape_of_convertNode {e e' : Emitted} {body : List Go.Stmt} (root : t.position = .root)
    (ok : convertNode f convert t e = .ok (body, e')) :
    ∃ shape, (f.catalog.resolve t.source).type = some shape ∧ shape.kind ≠ .userType := by
  cases nodeCode_of_run ok with
  | call called => exact nomatch root.symm.trans called.nested
  | _ _ source => exact ⟨_, source, nofun⟩

theorem shape_of_build (built : build c r = .ok code) :
    ∃ shape, (c.resolve r.source).type = some shape ∧ shape.kind ≠ .userType := by
  obtain ⟨emitted, run, -⟩ := build_eq_ok.mp built
  cases depth : c.depthBound r.source r.target with
  | zero =>
    rw [depth] at run
    cases run
  | succ depth =>
    rw [‹c.depthBound r.source r.target = _›] at run
    exact shape_of_convertNode (t := taskOf r) rfl run

end Conversion

namespace Planner

/-- The type of a parameter has a nil: it is spelled as a pointer, a slice, a map or `any`, or it
names a user type for a shape that has one. -/
def Nilable (c : Catalog) (source : Attribute) (param : String) : Prop :=
  (∃ rest, param = "*" ++ rest) ∨ (∃ rest, param = "[]" ++ rest) ∨
    (∃ rest, param = "map[" ++ rest) ∨ param = "any" ∨
      ((c.userType? source).isSome = true ∧ (∃ package, param = Go.typeRef c package source) ∧
        (c.resolve source).hasNil = true)

section Guards

variable {s : Setting} {c : Catalog} {method : MethodBinding} {projection : Projection}
  {source : Attribute} {package : String}

theorem isPointerRef_pointerTo (reference : String) : Go.isPointerRef (pointerTo reference) = true := by
  unfold pointerTo
  split
  · assumption
  · exact Go.isPointerRef_append _

theorem nilable_of_pointer {param : String} (pointer : Go.isPointerRef param = true) :
    Nilable c source param := .inl (Go.isPointerRef_iff.mp pointer)

theorem parameter_guarded
    (guard : projectionGuard s method projection source = true) :
    parameter s method projection source =
      if (s.catalog.resolvedPrimitive? source).isSome then
        pointerTo (Go.typeRef s.catalog (projectionPackage s source) source)
      else Go.typeRef s.catalog (projectionPackage s source) source := by
  unfold parameter projectionPointer
  rw [guard, Bool.true_and]

theorem not_nilable_struct (struct : source.isStruct = true) :
    ¬ Nilable c source (Go.typeRef c package source) := by
  unfold Attribute.isStruct at struct
  split at struct
  · rename_i members object
    have head : (Go.typeRef c package source).toList.head? = some 's' :=
      Go.head_typeRef_struct object
    have apart : ∀ {front rest : String} {ch : Char}, front.toList.head? = some ch → ch ≠ 's' →
        Go.typeRef c package source ≠ front ++ rest := by
      intro front rest ch first other same
      rw [same, String.toList_append, List.head?_append, first] at head
      exact other (Option.some.inj head)
    rintro (⟨rest, same⟩ | ⟨rest, same⟩ | ⟨rest, same⟩ | same | ⟨named, -⟩)
    · exact apart rfl (by decide) same
    · exact apart rfl (by decide) same
    · exact apart rfl (by decide) same
    · rw [same] at head
      exact absurd head (by decide)
    · rw [Catalog.userType?_of_object object] at named
      cases named
  · cases struct

theorem nilable_direct (direct : c.userType? source = none) (full : source.isEmpty = false)
    (notStruct : source.isStruct = false) (notPrimitive : source.isPrimitive = false) :
    Nilable c source (Go.typeRef c package source) := by
  obtain ⟨type, required, default⟩ := source
  cases type with
  | none => cases full
  | some type =>
    cases type with
    | primitive q => cases notPrimitive
    | object members => cases notStruct
    | array element => exact .inr (.inl ⟨Go.typeRef c package element, rfl⟩)
    | map key value =>
      exact .inr (.inr (.inl ⟨Go.typeRef c package key ++ ("]" ++ Go.typeRef c package value),
        String.append_assoc.trans String.append_assoc⟩))
    | union members => exact .inr (.inr (.inr (.inl rfl)))
    | user id => cases direct
    | named name body => cases direct

theorem nilable_userType {t : UserType} (type : c.userType? source = some t)
    (notPrimitive : (c.resolvedPrimitive? source).isSome = false)
    (resolved : ∃ shape, (c.resolve source).type = some shape ∧ shape.kind ≠ .userType) :
    Nilable c source (Go.typeRef c package source) := by
  obtain ⟨shape, same, known⟩ := resolved
  cases object : c.isObject source with
  | true => exact nilable_of_pointer (Go.isPointerRef_object type object)
  | false =>
    refine .inr (.inr (.inr (.inr ⟨by rw [type]; rfl, ⟨package, rfl⟩, ?_⟩)))
    unfold Catalog.isObject at object
    unfold Catalog.resolvedPrimitive? Attribute.primitive? at notPrimitive
    unfold Attribute.hasNil
    rw [same] at object notPrimitive ⊢
    cases shape with
    | primitive q => cases notPrimitive
    | object members => cases object
    | array element => rfl
    | map key value => rfl
    | union members => rfl
    | user id => exact absurd rfl known
    | named name body => exact absurd rfl known

theorem resolvedPrimitive?_struct (struct : source.isStruct = true) :
    c.resolvedPrimitive? source = none := by
  unfold Attribute.isStruct at struct
  split at struct
  · rename_i members object
    unfold Catalog.resolvedPrimitive? Attribute.primitive?
    rw [Catalog.resolve_of_direct (Catalog.userType?_of_object object), object]
  · cases struct

/-- Behind a guard all types have a nil but structs. -/
theorem nilable_iff (full : source.isEmpty = false)
    (guard : projectionGuard s method projection source = true)
    (resolved : ∃ shape, (s.catalog.resolve source).type = some shape ∧ shape.kind ≠ .userType) :
    Nilable s.catalog source (parameter s method projection source) ↔ source.isStruct = false := by
  rw [parameter_guarded guard]
  cases primitive : (s.catalog.resolvedPrimitive? source).isSome with
  | true =>
    refine iff_of_true (nilable_of_pointer (isPointerRef_pointerTo _)) ?_
    rw [Bool.eq_false_iff]
    intro struct
    rw [resolvedPrimitive?_struct struct] at primitive
    cases primitive
  | false =>
    rw [if_neg Bool.false_ne_true]
    cases struct : source.isStruct with
    | true => exact iff_of_false (not_nilable_struct struct) nofun
    | false =>
      refine iff_of_true ?_ rfl
      cases type : s.catalog.userType? source with
      | some t => exact nilable_userType type primitive resolved
      | none =>
        refine nilable_direct type full struct (Bool.eq_false_iff.mpr fun direct => ?_)
        obtain ⟨q, own⟩ := Option.isSome_iff_exists.mp direct
        rw [Catalog.resolvedPrimitive?_of_primitive own] at primitive
        cases primitive

theorem guard_of_pointer (full : source.isEmpty = false)
    (optional : s.catalog.isRequired method.result projection.field = false)
    (pointer : Go.isPointerRef (parameter s method projection source) = true) :
    projectionGuard s method projection source = true ↔ projection.field ≠ "" := by
  constructor
  · rintro guard unnamed
    rw [projectionGuard_unnamed unnamed] at guard
    cases guard
  · intro named
    rw [projectionGuard_eq named full, optional]
    cases direct : source.isPrimitive with
    | false => rfl
    | true =>
      obtain ⟨q, primitive⟩ := Option.isSome_iff_exists.mp direct
      unfold parameter at pointer
      rw [projectionPointer_eq named full, direct, if_pos rfl, Go.typeRef_primitive primitive]
        at pointer
      cases value : s.catalog.isPrimitivePointer method.result projection.field true with
      | true => rfl
      | false =>
        rw [value, if_neg Bool.false_ne_true, Go.isPointerRef_goName] at pointer
        cases pointer

end Guards

section Plans

variable {s : Setting} {p : Plan} {service : Service} {f : PlannedFunction}

theorem shape_of_converted (goes : s.engine = Conversion.engine s.catalog) {tools : List Tool}
    {k : Converted} {r : ConversionRequest} (asked : Asked s tools k r) :
    ∃ shape, (s.catalog.resolve k.source).type = some shape ∧ shape.kind ≠ .userType := by
  obtain ⟨code, written⟩ := asked.written goes
  have shape := Conversion.shape_of_build written.built
  rwa [asked.answered.source] at shape

theorem payloadConversion?_unguarded {tool : Tool} {method : MethodBinding} {k : Converted}
    (made : payloadConversion? s tool method = some k) : k.function.guardsNil = false := by
  obtain ⟨own, output, -, -, rfl⟩ := payloadConversion?_eq_some made
  rfl

theorem resultConversion?_unguarded {tool : Tool} {method : MethodBinding} {k : Converted}
    (made : resultConversion? s tool method = some k) : k.function.guardsNil = false := by
  obtain ⟨own, output, -, -, rfl⟩ := resultConversion?_eq_some made
  rfl

theorem projects_of_guarded (goes : s.engine = Conversion.engine s.catalog)
    (made : MadeOf s service p) (mem : f ∈ p.functions) (guard : f.guardsNil = true) :
    ∃ tool ∈ s.toolset.tools, ∃ method, tool.method = some method ∧
      ∃ projection ∈ tool.serverData, ∃ source,
        Projects s p tool method projection source f ∧
          (Nilable s.catalog source f.paramType ↔ source.isStruct = false) := by
  rw [made.functions] at mem
  obtain ⟨k, memK, rfl⟩ := List.mem_map.mp mem
  obtain ⟨tool, memTool, memK⟩ := List.mem_flatMap.mp memK
  obtain ⟨method, bound, payload | result | ⟨projection, declared, converted⟩⟩ :=
    mem_toolConversions memK
  · rw [payloadConversion?_unguarded payload] at guard
    cases guard
  · rw [resultConversion?_unguarded result] at guard
    cases guard
  · have projects := projects_of_made made memTool bound declared converted
    refine ⟨tool, memTool, method, bound, projection, declared, k.source, projects, ?_⟩
    have shape := shape_of_converted goes (.projection memTool bound declared converted)
    obtain ⟨target, body, function⟩ := projects.function
    rw [function] at guard ⊢
    exact nilable_iff projects.full guard shape

theorem Projects.guarded {tool : Tool} {method : MethodBinding} {projection : Projection}
    {source : Attribute} (h : Projects s p tool method projection source f)
    (optional : s.catalog.isRequired method.result projection.field = false)
    (pointer : Go.isPointerRef f.paramType = true) :
    f.guardsNil = true ↔ projection.field ≠ "" := by
  obtain ⟨target, body, rfl⟩ := h.function
  exact guard_of_pointer h.full optional pointer

end Plans

/-- A guard stands on a parameter that has a nil, unless that is a struct; a parameter that is a
pointer because its field may be absent has a guard. -/
theorem nil_guards {c : Catalog} {root : String} {t : Toolset} {p : Plan}
    (planned : (planToolset c root t).outcome = .ok (some p)) :
    ∃ service, t.sourceService = some service ∧
      (∀ f ∈ p.functions, f.guardsNil = true →
        ∃ tool ∈ t.tools, ∃ method, tool.method = some method ∧
          ∃ projection ∈ tool.serverData, ∃ source,
            Projects (goSetting c root t service (SpecsIndex.ofToolset c t)) p tool method
              projection source f ∧
            (Nilable c source f.paramType ↔ source.isStruct = false)) ∧
      ∀ tool ∈ t.tools, ∀ method, tool.method = some method →
        ∀ projection ∈ tool.serverData, ∃ source f,
          Projects (goSetting c root t service (SpecsIndex.ofToolset c t)) p tool method projection
            source f ∧
          (c.isRequired method.result projection.field = false →
            Go.isPointerRef f.paramType = true → (f.guardsNil = true ↔ projection.field ≠ "")) := by
  obtain ⟨service, given, made, projected⟩ := projections_projected planned
  refine ⟨service, given, fun f mem guard => projects_of_guarded rfl made mem guard, ?_⟩
  intro tool mem method bound projection declared
  obtain ⟨source, f, projects⟩ := projected tool mem method bound projection declared
  exact ⟨source, f, projects, projects.guarded⟩

/-! A tool `fetch` passes on a record that is declared in place, and a document. -/
namespace Recorded

def record : Attribute :=
  { type := some (.object [⟨"id", .ofType (.primitive .string)⟩]), required := ["id"] }

def catalog : Catalog := ⟨[{ name := "Doc", service := some "alpha", body := record }]⟩

def method (required : List String) : MethodBinding :=
  { name := "Fetch", payload := {},
    result :=
      { type := some (.object [⟨"data", record⟩, ⟨"doc", .ofType (.user 0)⟩]), required },
    payloadRef := some "string", resultRef := some "*alpha.FetchResult" }

def data : Projection := { kind := "data", field := "data" }

def doc : Projection := { kind := "doc", field := "doc" }

def tool (required : List String) : Tool :=
  { name := "fetch", qualifiedName := "alpha.ops.fetch", method := some (method required),
    serverData := [data, doc] }

def alpha : Service := ⟨"alpha", "alpha"⟩

def toolset (required : List String) : Toolset :=
  { name := "alpha.ops", specsDir := some "gen/docs", specsPackage := "ops",
    sourceService := some alpha, tools := [tool required] }

def run (required : List String) : PlanRun :=
  planToolset catalog "example.com/gen" (toolset required)

def setting (required : List String) : Setting :=
  goSetting catalog "example.com/gen" (toolset required) alpha
    (SpecsIndex.ofToolset catalog (toolset required))

def params? (required : List String) : Option (List (String × Bool)) :=
  (run required).outcome.toOption.join.map fun p =>
    p.functions.map fun f => (f.paramType, f.guardsNil)

theorem struct_guarded :
    ∃ p f, (run []).outcome = .ok (some p) ∧ f ∈ p.functions ∧ f.guardsNil = true ∧
      f.paramType = "struct \x7b ID string \x7d" ∧
        Projects (setting []) p (tool []) (method []) data record f ∧
          ¬ Nilable catalog record f.paramType := by
  have summary : params? [] =
      some [("struct \x7b ID string \x7d", true), ("*alpha.Doc", true)] := by
    decide +kernel
  obtain ⟨p, planned, params⟩ : ∃ p, (run []).outcome = .ok (some p) ∧
      p.functions.map (fun f => (f.paramType, f.guardsNil)) = _ := planned_of_summary summary
  obtain ⟨service, given, made, projected⟩ := projections_projected planned
  obtain rfl := Option.some.inj given
  obtain ⟨source, f, projects⟩ := projected (tool []) List.mem_cons_self (method []) rfl data
    List.mem_cons_self
  obtain rfl : record = source := Option.some.inj projects.field
  have param : f.paramType = "struct \x7b ID string \x7d" := by
    obtain ⟨target, body, rfl⟩ := projects.function
    have spelled : parameter (setting []) (method []) data record = "struct \x7b ID string \x7d" := by
      decide +kernel
    exact spelled
  have guard : f.guardsNil = true := by
    obtain ⟨target, body, rfl⟩ := projects.function
    have guarded : projectionGuard (setting []) (method []) data record = true := by decide +kernel
    exact guarded
  have spelled : f.paramType = Go.typeRef catalog "alpha" record := param.trans (by decide +kernel)
  refine ⟨p, f, planned, projects.planned, guard, param, projects, ?_⟩
  rw [spelled]
  exact not_nilable_struct rfl

theorem required_struct_unguarded :
    ∃ p, (run ["data"]).outcome = .ok (some p) ∧
      p.functions.map (fun f => (f.paramType, f.guardsNil)) =
        [("struct \x7b ID string \x7d", false), ("*alpha.Doc", true)] ∧
      ∀ f ∈ p.functions, f.guardsNil = true →
        Nilable catalog (.ofType (.user 0)) f.paramType := by
  have summary : params? ["data"] =
      some [("struct \x7b ID string \x7d", false), ("*alpha.Doc", true)] := by
    decide +kernel
  obtain ⟨p, planned, params⟩ : ∃ p, (run ["data"]).outcome = .ok (some p) ∧
      p.functions.map (fun f => (f.paramType, f.guardsNil)) = _ := planned_of_summary summary
  obtain ⟨service, given, guards, -⟩ := nil_guards planned
  obtain rfl := Option.some.inj given
  refine ⟨p, planned, params, fun f mem guard => ?_⟩
  obtain ⟨tool', mem', method', bound, projection, declared, source, projects, nilable⟩ :=
    guards f mem guard
  obtain rfl := List.mem_singleton.mp mem'
  obtain rfl : method ["data"] = method' := Option.some.inj bound
  rcases List.mem_cons.mp declared with rfl | declared
  · -- The record is required.
    obtain rfl : record = source := Option.some.inj projects.field
    have unguarded : projectionGuard (setting ["data"]) (method ["data"]) data record = false := by
      decide +kernel
    obtain ⟨target, body, rfl⟩ := projects.function
    exact nomatch guard.symm.trans unguarded
  · obtain rfl := List.mem_singleton.mp declared
    obtain rfl : Attribute.ofType (.user 0) = source := Option.some.inj projects.field
    exact nilable.mpr rfl

end Recorded

end Planner
end Toolbridge
