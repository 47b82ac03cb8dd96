import Toolbridge.Plan.Planner
import Toolbridge.Proofs.Import.Block
import Toolbridge.Proofs.Plan.HelperSet

set_option autoImplicit false

namespace Toolbridge

namespace Planner

structure Converted where
  function : PlannedFunction
  helpers : List Helper
  source : Attribute
  target : Attribute

def Converted.imports (s : Setting) (k : Converted) : List Import :=
  s.catalog.collectImports k.source s.root ++ s.catalog.collectImports k.target s.root

/-- What the engine answers does not depend on earlier requests. -/
def Steady (engine : Engine) : Prop := ∀ earlier r, engine earlier r = engine [] r

/-- The body of a conversion between compatible ends, unless it is blank. -/
def output? (s : Setting) (source target : End) (sourceVar : String) : Option ConversionOutput :=
  match s.catalog.checkCompatible source.attr target.attr source.label target.label with
  | .error _ => none
  | .ok () =>
    match s.engine [] (conversionRequest source target sourceVar) with
    | .error _ => none
    | .ok output => if Text.isBlank output.body then none else some output

def payloadConversion? (s : Setting) (tool : Tool) (method : MethodBinding) : Option Converted :=
  if tool.args.isEmpty || method.payload.isEmpty then none
  else
    (s.index.get? (payloadTypeName tool)).bind fun own =>
      (output? s ⟨own, tool.qualifiedName ++ " payload", ""⟩
        ⟨method.payload, method.name ++ " payload", s.servicePackage⟩ "v").map fun output =>
          ⟨{ name := "Init" ++ tool.goName ++ "MethodPayload",
             paramType := Go.typeRef s.catalog "" own,
             resultType := method.payloadRef.getD "", body := output.body },
            output.helpers, own, method.payload⟩

def resultConversion? (s : Setting) (tool : Tool) (method : MethodBinding) : Option Converted :=
  if tool.result.isEmpty || method.result.isEmpty then none
  else
    (s.index.get? (resultTypeName tool)).bind fun own =>
      (output? s ⟨method.result, method.name ++ " result", s.servicePackage⟩
        ⟨own, tool.qualifiedName ++ " result", ""⟩ "v").map fun output =>
          ⟨{ name := "Init" ++ tool.goName ++ "ToolResult",
             paramType := method.resultRef.getD "",
             resultType := Go.typeRef s.catalog "" own, body := output.body },
            output.helpers, method.result, own⟩

def projectionPackage (s : Setting) (source : Attribute) : String :=
  match s.catalog.location? source with
  | some location => location.package
  | none => s.servicePackage

def projectionGuard (s : Setting) (method : MethodBinding) (p : Projection) (source : Attribute) :
    Bool :=
  s.catalog.needsNilGuard (some method.result) p.field (some source)

def projectionPointer (s : Setting) (method : MethodBinding) (p : Projection) (source : Attribute) :
    Bool :=
  projectionGuard s method p source && (s.catalog.resolvedPrimitive? source).isSome

def projectionVariable (s : Setting) (method : MethodBinding) (p : Projection)
    (source : Attribute) : String :=
  if projectionPointer s method p source then "(*v)" else "v"

def projectionSource (s : Setting) (method : MethodBinding) (p : Projection) (source : Attribute) :
    End :=
  ⟨source, method.name ++ " result." ++ p.field, projectionPackage s source⟩

def projectionTarget (tool : Tool) (p : Projection) (target : Attribute) : End :=
  ⟨target, serverDataTypeName tool p, ""⟩

def projectionFunction (s : Setting) (tool : Tool) (method : MethodBinding) (p : Projection)
    (source target : Attribute) (body : String) : PlannedFunction :=
  let reference := Go.typeRef s.catalog (projectionPackage s source) source
  { name := "Init" ++ tool.goName ++ p.goKind ++ "ServerData",
    paramType := if projectionPointer s method p source then pointerTo reference else reference,
    resultType := Go.typeRef s.catalog "" target, body,
    guardsNil := projectionGuard s method p source }

def serverDataConversion? (s : Setting) (tool : Tool) (method : MethodBinding) (p : Projection) :
    Option Converted :=
  ((s.catalog.field? method.result p.field).filter fun a => !a.isEmpty).bind fun source =>
    (s.index.get? (serverDataTypeName tool p)).bind fun target =>
      (output? s (projectionSource s method p source) (projectionTarget tool p target)
        (projectionVariable s method p source)).map fun output =>
          ⟨projectionFunction s tool method p source target output.body, output.helpers, source,
            target⟩

section Made

variable {s : Setting} {tool : Tool} {method : MethodBinding} {p : Projection} {k : Converted}

theorem payloadConversion?_eq_some (made : payloadConversion? s tool method = some k) :
    ∃ own output, s.index.get? (payloadTypeName tool) = some own ∧
      output? s ⟨own, tool.qualifiedName ++ " payload", ""⟩
        ⟨method.payload, method.name ++ " payload", s.servicePackage⟩ "v" = some output ∧
      k =
        ⟨{ name := "Init" ++ tool.goName ++ "MethodPayload",
           paramType := Go.typeRef s.catalog "" own,
           resultType := method.payloadRef.getD "", body := output.body },
          output.helpers, own, method.payload⟩ := by
  unfold payloadConversion? at made
  split at made
  · cases made
  · obtain ⟨own, found, made⟩ := Option.bind_eq_some_iff.mp made
    obtain ⟨output, answer, made⟩ := Option.map_eq_some_iff.mp made
    exact ⟨own, output, found, answer, made.symm⟩

theorem resultConversion?_eq_some (made : resultConversion? s tool method = some k) :
    ∃ own output, s.index.get? (resultTypeName tool) = some own ∧
      output? s ⟨method.result, method.name ++ " result", s.servicePackage⟩
        ⟨own, tool.qualifiedName ++ " result", ""⟩ "v" = some output ∧
      k =
        ⟨{ name := "Init" ++ tool.goName ++ "ToolResult",
           paramType := method.resultRef.getD "",
           resultType := Go.typeRef s.catalog "" own, body := output.body },
          output.helpers, method.result, own⟩ := by
  unfold resultConversion? at made
  split at made
  · cases made
  · obtain ⟨own, found, made⟩ := Option.bind_eq_some_iff.mp made
    obtain ⟨output, answer, made⟩ := Option.map_eq_some_iff.mp made
    exact ⟨own, output, found, answer, made.symm⟩

theorem serverDataConversion?_eq_some (made : serverDataConversion? s tool method p = some k) :
    ∃ source target output, s.catalog.field? method.result p.field = some source ∧
      source.isEmpty = false ∧ s.index.get? (serverDataTypeName tool p) = some target ∧
      output? s (projectionSource s method p source) (projectionTarget tool p target)
        (projectionVariable s method p source) = some output ∧
      k =
        ⟨projectionFunction s tool method p source target output.body, output.helpers, source,
          target⟩ := by
  unfold serverDataConversion? at made
  obtain ⟨source, given, made⟩ := Option.bind_eq_some_iff.mp made
  obtain ⟨target, found, made⟩ := Option.bind_eq_some_iff.mp made
  obtain ⟨output, answer, made⟩ := Option.map_eq_some_iff.mp made
  obtain ⟨field, full⟩ := Option.filter_eq_some_iff.mp given
  exact ⟨source, target, output, field, by simpa using full, found, answer, made.symm⟩

end Made

def toolConversions (s : Setting) (tool : Tool) : List Converted :=
  match tool.method with
  | none => []
  | some method =>
    (payloadConversion? s tool method).toList ++ (resultConversion? s tool method).toList ++
      tool.serverData.filterMap (serverDataConversion? s tool method)

def conversions (s : Setting) (tools : List Tool) : List Converted :=
  tools.flatMap (toolConversions s)

section Runs

variable {α β : Type} {s : Setting} {d d' : Draft}

theorem bind_ok {m : Planner α} {g : α → Planner β} {y : β} (h : (m >>= g) d = (.ok y, d')) :
    ∃ x e, m d = (.ok x, e) ∧ g x e = (.ok y, d') := by
  have step : (m >>= g) d = ExceptT.bindCont g (m d).1 (m d).2 := rfl
  rw [step] at h
  cases run : m d with
  | mk outcome e =>
    rw [run] at h
    cases outcome with
    | error stop => cases h
    | ok x => exact ⟨x, e, rfl, h⟩

structure Same (d d' : Draft) : Prop where
  functions : d'.functions = d.functions
  helpers : d'.helpers = d.helpers
  imports : d'.imports = d.imports

theorem Same.refl (d : Draft) : Same d d := ⟨rfl, rfl, rfl⟩

theorem Same.trans {d'' : Draft} (h : Same d d') (h' : Same d' d'') : Same d d'' :=
  ⟨h'.functions.trans h.functions, h'.helpers.trans h.helpers, h'.imports.trans h.imports⟩

/-- The second draft holds the conversions on top of what the first holds. -/
structure Extends (s : Setting) (d d' : Draft) (ks : List Converted) : Prop where
  functions : d'.functions = d.functions ++ ks.map (·.function)
  helpers : d.helpers.extend (ks.flatMap (·.helpers)) = (d'.helpers, none)
  imports : d'.imports = d.imports.addAll (ks.flatMap (·.imports s))

theorem Same.extends (h : Same d d') : Extends s d d' [] := by
  refine ⟨?_, ?_, h.imports⟩
  · rw [h.functions, List.map_nil, List.append_nil]
  · rw [List.flatMap_nil, HelperSet.extend, h.helpers]

theorem note_ok {r : LogRecord} {x : Unit} (h : note r d = (.ok x, d')) : Same d d' := by
  cases h
  exact ⟨rfl, rfl, rfl⟩

theorem not_fail {e : PlanError} {x : α} : fail (α := α) e d ≠ (.ok x, d') := nofun

theorem request_ok {engine : Engine} {r : ConversionRequest}
    {answer : Except (Stop ConversionError) ConversionOutput}
    (h : request engine r d = (.ok answer, d')) :
    answer = engine d.requests r ∧ Same d d' := by
  cases h
  exact ⟨rfl, rfl, rfl, rfl⟩

theorem checkedBody_ok {tool : Tool} {function : String} {output : ConversionOutput}
    {required : Bool} {kept : Option ConversionOutput}
    (h : checkedBody s tool function output required d = (.ok kept, d')) :
    (kept = if Text.isBlank output.body then none else some output) ∧ Same d d' := by
  unfold checkedBody at h
  split at h
  · rename_i content
    cases h
    rw [if_neg (by simpa using content)]
    exact ⟨rfl, Same.refl d⟩
  · rename_i blank
    split at h
    · exact absurd h not_fail
    · obtain ⟨x, e, noted, rest⟩ := bind_ok h
      cases rest
      rw [if_pos (by simpa using blank)]
      exact ⟨rfl, note_ok noted⟩

theorem optionalConversion_ok (steady : Steady s.engine) {tool : Tool} {function : String}
    {source target : End} {kept : Option ConversionOutput}
    (h : optionalConversion s tool function source target d = (.ok kept, d')) :
    kept = output? s source target "v" ∧ Same d d' := by
  unfold optionalConversion at h
  unfold output?
  cases compared : s.catalog.checkCompatible source.attr target.attr source.label target.label with
  | error stop =>
    rw [compared] at h
    cases stop with
    | unfinished => cases h
    | failed e =>
      obtain ⟨x, e, noted, rest⟩ := bind_ok h
      cases rest
      exact ⟨rfl, note_ok noted⟩
  | ok _ =>
    rw [compared] at h
    obtain ⟨answer, e, asked, rest⟩ := bind_ok h
    obtain ⟨rfl, same⟩ := request_ok asked
    rw [steady] at rest
    dsimp only
    cases answered : s.engine [] (conversionRequest source target "v") with
    | error stop =>
      rw [answered] at rest
      cases stop with
      | unfinished => cases rest
      | failed e =>
        obtain ⟨x, e', noted, done⟩ := bind_ok rest
        cases done
        exact ⟨rfl, same.trans (note_ok noted)⟩
    | ok output =>
      rw [answered] at rest
      obtain ⟨kept, same'⟩ := checkedBody_ok rest
      exact ⟨kept, same.trans same'⟩

theorem Extends.trans {d'' : Draft} {ks more : List Converted} (h : Extends s d d' ks)
    (h' : Extends s d' d'' more) : Extends s d d'' (ks ++ more) := by
  refine ⟨?_, ?_, ?_⟩
  · rw [h'.functions, h.functions, List.map_append, List.append_assoc]
  · rw [List.flatMap_append, HelperSet.extend_append, h.helpers]
    exact h'.helpers
  · rw [h'.imports, h.imports, PendingImports.addAll_append, List.flatMap_append]

theorem Extends.after {d'' : Draft} {ks : List Converted} (h : Same d d')
    (h' : Extends s d' d'' ks) : Extends s d d'' ks := h.extends.trans h'

theorem addFunction_ok {k : Converted} {x : Unit}
    (h : addFunction s k.function k.helpers k.source k.target d = (.ok x, d')) :
    Extends s d d' [k] := by
  unfold addFunction at h
  obtain ⟨_, e, added, rest⟩ := bind_ok h
  cases added
  obtain ⟨_, e, got, rest⟩ := bind_ok rest
  cases got
  dsimp only at rest
  obtain ⟨_, e, kept, rest⟩ := bind_ok rest
  cases kept
  cases conflict : (d.helpers.extend k.helpers).2 with
  | some reason =>
    rw [conflict] at rest
    exact absurd rest not_fail
  | none =>
    rw [conflict] at rest
    cases rest
    refine ⟨rfl, ?_, ?_⟩
    · rw [List.flatMap_singleton, ← conflict]
    · rw [List.flatMap_singleton, Converted.imports, ← PendingImports.addAll_append]

theorem requiredRef_ok {tool : Tool} {reference : Option String} {datum : MethodDatum}
    {text : String} (h : requiredRef s tool reference datum d = (.ok text, d')) :
    text = reference.getD "" ∧ Same d d' := by
  unfold requiredRef at h
  cases reference with
  | none => exact absurd h not_fail
  | some given =>
    dsimp only at h
    split at h
    · exact absurd h not_fail
    · cases h
      exact ⟨rfl, Same.refl d⟩

def addConverted (s : Setting) (function : String → PlannedFunction) (source target : Attribute) :
    Option ConversionOutput → Planner Unit
  | none => pure ()
  | some output => addFunction s (function output.body) output.helpers source target

theorem converted_ok (steady : Steady s.engine) {tool : Tool} {name : String} {source target : End}
    {x : Unit} (function : String → PlannedFunction)
    (h : (optionalConversion s tool name source target >>=
      addConverted s function source.attr target.attr) d = (.ok x, d')) :
    Extends s d d' ((output? s source target "v").map fun output : ConversionOutput =>
      (⟨function output.body, output.helpers, source.attr, target.attr⟩ : Converted)).toList := by
  obtain ⟨kept, e, made, rest⟩ := bind_ok h
  obtain ⟨rfl, before⟩ := optionalConversion_ok steady made
  cases answered : output? s source target "v" with
  | none =>
    rw [answered] at rest
    cases rest
    exact before.extends
  | some output =>
    rw [answered] at rest
    exact .after before (addFunction_ok (k := ⟨_, _, _, _⟩) rest)

theorem planPayload_ok (steady : Steady s.engine) {tool : Tool} {method : MethodBinding} {x : Unit}
    (h : planPayload s tool method (method.payloadRef.getD "") d = (.ok x, d')) :
    Extends s d d' (payloadConversion? s tool method).toList := by
  unfold planPayload at h
  unfold payloadConversion?
  split at h
  · rename_i nothing
    cases h
    rw [if_pos nothing]
    exact (Same.refl d).extends
  · rename_i something
    rw [if_neg something]
    cases found : s.index.get? (payloadTypeName tool) with
    | none =>
      rw [found] at h
      cases h
      exact (Same.refl d).extends
    | some own =>
      rw [found] at h
      exact converted_ok steady (fun body => ⟨_, _, _, body, _⟩) h

theorem planResult_ok (steady : Steady s.engine) {tool : Tool} {method : MethodBinding} {x : Unit}
    (h : planResult s tool method (method.resultRef.getD "") d = (.ok x, d')) :
    Extends s d d' (resultConversion? s tool method).toList := by
  unfold planResult at h
  unfold resultConversion?
  split at h
  · rename_i nothing
    cases h
    rw [if_pos nothing]
    exact (Same.refl d).extends
  · rename_i something
    rw [if_neg something]
    cases found : s.index.get? (resultTypeName tool) with
    | none =>
      rw [found] at h
      cases h
      exact (Same.refl d).extends
    | some own =>
      rw [found] at h
      exact converted_ok steady (fun body => ⟨_, _, _, body, _⟩) h

theorem projectedField_ok {tool : Tool} {method : MethodBinding} {p : Projection} {a : Attribute}
    (h : projectedField s tool method p d = (.ok a, d')) :
    (s.catalog.field? method.result p.field).filter (fun a => !a.isEmpty) = some a ∧ Same d d' := by
  unfold projectedField at h
  cases found : (s.catalog.field? method.result p.field).filter fun a => !a.isEmpty with
  | none =>
    rw [found] at h
    exact absurd h not_fail
  | some b =>
    rw [found] at h
    cases h
    exact ⟨rfl, Same.refl d⟩

theorem serverDataType_ok {tool : Tool} {p : Projection} {a : Attribute}
    (h : serverDataType s tool p d = (.ok a, d')) :
    s.index.get? (serverDataTypeName tool p) = some a ∧ Same d d' := by
  unfold serverDataType at h
  cases found : s.index.get? (serverDataTypeName tool p) with
  | none =>
    rw [found] at h
    exact absurd h not_fail
  | some b =>
    rw [found] at h
    cases h
    exact ⟨rfl, Same.refl d⟩

theorem requireCompatible_ok {tool : Tool} {p : Projection} {source target : End} {x : Unit}
    (h : requireCompatible s tool p source target d = (.ok x, d')) :
    s.catalog.checkCompatible source.attr target.attr source.label target.label = .ok () ∧
      Same d d' := by
  unfold requireCompatible at h
  cases compared : s.catalog.checkCompatible source.attr target.attr source.label target.label with
  | error stop =>
    rw [compared] at h
    cases stop with
    | unfinished => cases h
    | failed e => exact absurd h not_fail
  | ok _ =>
    rw [compared] at h
    cases h
    exact ⟨rfl, Same.refl d⟩

def serverDataStep (s : Setting) (tool : Tool) (method : MethodBinding) (p : Projection)
    (source target : Attribute) : Planner Unit := do
  requireCompatible s tool p (projectionSource s method p source) (projectionTarget tool p target)
  match ← request s.engine (conversionRequest (projectionSource s method p source)
    (projectionTarget tool p target) (projectionVariable s method p source)) with
  | .error .unfinished => throw .unfinished
  | .error (.failed e) =>
    fail (.conversionFailed s.toolset.name tool.qualifiedName
      ("Init" ++ tool.goName ++ p.goKind ++ "ServerData") e)
  | .ok output =>
    match ← checkedBody s tool ("Init" ++ tool.goName ++ p.goKind ++ "ServerData") output true with
    | none => pure ()
    | some output =>
      addFunction s (projectionFunction s tool method p source target output.body) output.helpers
        source target

theorem planServerData_eq (tool : Tool) (method : MethodBinding) (p : Projection) :
    planServerData s tool method p =
      (projectedField s tool method p >>= fun source =>
        serverDataType s tool p >>= fun target => serverDataStep s tool method p source target) := rfl

theorem serverDataStep_ok (steady : Steady s.engine) {tool : Tool} {method : MethodBinding}
    {p : Projection} {source target : Attribute} {x : Unit}
    (h : serverDataStep s tool method p source target d = (.ok x, d')) :
    Extends s d d' ((output? s (projectionSource s method p source) (projectionTarget tool p target)
      (projectionVariable s method p source)).map fun output : ConversionOutput =>
        (⟨projectionFunction s tool method p source target output.body, output.helpers, source,
          target⟩ : Converted)).toList := by
  unfold serverDataStep at h
  obtain ⟨_, e, compared, h⟩ := bind_ok h
  obtain ⟨compatible, same⟩ := requireCompatible_ok compared
  obtain ⟨answer, e', asked, h⟩ := bind_ok h
  obtain ⟨rfl, same'⟩ := request_ok asked
  have before := same.trans same'
  rw [steady] at h
  unfold output?
  rw [compatible]
  dsimp only
  cases answered : s.engine [] (conversionRequest (projectionSource s method p source)
    (projectionTarget tool p target) (projectionVariable s method p source)) with
  | error stop =>
    rw [answered] at h
    cases stop with
    | unfinished => cases h
    | failed e => exact absurd h not_fail
  | ok output =>
    rw [answered] at h
    obtain ⟨kept, e'', checked, h⟩ := bind_ok h
    obtain ⟨rfl, same''⟩ := checkedBody_ok checked
    dsimp only
    split
    · rename_i blank
      rw [if_pos blank] at h
      cases h
      exact (before.trans same'').extends
    · rename_i content
      rw [if_neg content] at h
      exact .after (before.trans same'') (addFunction_ok (k := ⟨_, _, _, _⟩) h)

theorem planServerData_ok (steady : Steady s.engine) {tool : Tool} {method : MethodBinding}
    {p : Projection} {x : Unit} (h : planServerData s tool method p d = (.ok x, d')) :
    Extends s d d' (serverDataConversion? s tool method p).toList := by
  rw [planServerData_eq] at h
  obtain ⟨source, e, projected, h⟩ := bind_ok h
  obtain ⟨target, e', declared, h⟩ := bind_ok h
  obtain ⟨source, same⟩ := projectedField_ok projected
  obtain ⟨target, same'⟩ := serverDataType_ok declared
  unfold serverDataConversion?
  rw [source, Option.bind_some, target, Option.bind_some]
  exact .after (same.trans same') (serverDataStep_ok steady h)

theorem planProjections_ok (steady : Steady s.engine) {tool : Tool} {method : MethodBinding}
    {projections : List Projection} {x : Unit}
    (h : planProjections s tool method projections d = (.ok x, d')) :
    Extends s d d' (projections.filterMap (serverDataConversion? s tool method)) := by
  induction projections generalizing d with
  | nil =>
    cases h
    exact (Same.refl _).extends
  | cons p rest ih =>
    obtain ⟨_, e, planned, h⟩ := bind_ok h
    have both := (planServerData_ok steady planned).trans (ih h)
    cases made : serverDataConversion? s tool method p with
    | none =>
      rw [List.filterMap_cons_none made]
      rwa [made] at both
    | some k =>
      rw [List.filterMap_cons_some made]
      rwa [made] at both

theorem planTool_ok (steady : Steady s.engine) {tool : Tool} {method : MethodBinding} {x : Unit}
    (bound : tool.method = some method) (h : planTool s tool method d = (.ok x, d')) :
    Extends s d d' (toolConversions s tool) := by
  unfold planTool at h
  obtain ⟨payloadRef, e₁, given, h⟩ := bind_ok h
  obtain ⟨resultRef, e₂, given', h⟩ := bind_ok h
  obtain ⟨rfl, same⟩ := requiredRef_ok given
  obtain ⟨rfl, same'⟩ := requiredRef_ok given'
  obtain ⟨_, e₃, payload, h⟩ := bind_ok h
  obtain ⟨_, e₄, result, h⟩ := bind_ok h
  unfold toolConversions
  rw [bound]
  have both := (planPayload_ok steady payload).trans (planResult_ok steady result)
  exact .after (same.trans same') (both.trans (planProjections_ok steady h))

theorem planTools_ok (steady : Steady s.engine) {tools : List Tool} {x : Unit}
    (h : planTools s tools d = (.ok x, d')) : Extends s d d' (conversions s tools) := by
  induction tools generalizing d with
  | nil =>
    cases h
    exact (Same.refl _).extends
  | cons tool rest ih =>
    unfold planTools at h
    unfold conversions
    rw [List.flatMap_cons]
    cases bound : tool.method with
    | none =>
      rw [bound] at h
      obtain ⟨_, e, noted, h⟩ := bind_ok h
      have nothing : toolConversions s tool = [] := by
        unfold toolConversions
        rw [bound]
      rw [nothing, List.nil_append]
      exact .after (note_ok noted) (ih h)
    | some method =>
      rw [bound] at h
      obtain ⟨_, e, planned, h⟩ := bind_ok h
      exact (planTool_ok steady bound planned).trans (ih h)

end Runs

structure MadeOf (s : Setting) (service : Service) (p : Plan) : Prop where
  functions : p.functions = (conversions s s.toolset.tools).map (·.function)
  helpers : p.helpers =
    (HelperSet.extend {} ((conversions s s.toolset.tools).flatMap (·.helpers))).1.helpers
  agreed : (HelperSet.extend {} ((conversions s s.toolset.tools).flatMap (·.helpers))).2 = none
  imports : ImportBlock.assemble ⟨service.importPath s.root, some s.servicePackage⟩
    (PendingImports.addAll {} ((conversions s s.toolset.tools).flatMap (·.imports s))) =
      .ok p.imports

theorem finish_ok {s : Setting} {specsDir : String} {service : Service} {p : Plan} {d d' : Draft}
    (made : Extends s {} d (conversions s s.toolset.tools))
    (h : finish s specsDir service d = (.ok (some p), d')) : MadeOf s service p := by
  unfold finish at h
  obtain ⟨_, e, got, h⟩ := bind_ok h
  cases got
  split at h
  · obtain ⟨_, e, noted, h⟩ := bind_ok h
    cases h
  · cases assembled : ImportBlock.assemble ⟨service.importPath s.root, some s.servicePackage⟩
      d.imports with
    | error e =>
      rw [assembled] at h
      exact absurd h not_fail
    | ok imports =>
      rw [assembled] at h
      obtain ⟨_, e, noted, h⟩ := bind_ok h
      cases h
      have helpers : HelperSet.extend {} _ = (d.helpers, none) := made.helpers
      rw [made.imports] at assembled
      refine ⟨made.functions, ?_, ?_, assembled⟩
      · rw [helpers]
      · rw [helpers]

/-- What a successful run plans, where the engine is steady. -/
theorem planWith_ok {c : Catalog} {engine : Engine} {root : String} {toolset : Toolset}
    {index : SpecsIndex} {p : Plan} (steady : Steady engine)
    (h : (planWith c engine root toolset index).outcome = .ok (some p)) :
    ∃ service, toolset.sourceService = some service ∧
      MadeOf ⟨c, engine, root, toolset, service.package, index⟩ service p := by
  have run : ∃ d', plan c engine root toolset index {} = (.ok (some p), d') := ⟨_, Prod.ext h rfl⟩
  obtain ⟨d', run⟩ := run
  unfold plan at run
  cases directory : toolset.specsDir.filter fun dir => !dir.isEmpty with
  | none =>
    rw [directory] at run
    obtain ⟨_, e, noted, run⟩ := bind_ok run
    cases run
  | some specsDir =>
    rw [directory] at run
    dsimp only at run
    cases source : toolset.sourceService with
    | none =>
      rw [source] at run
      obtain ⟨_, e, noted, run⟩ := bind_ok run
      cases run
    | some service =>
      rw [source] at run
      dsimp only at run
      split at run
      · obtain ⟨_, e, noted, run⟩ := bind_ok run
        cases run
      · obtain ⟨_, e, planned, run⟩ := bind_ok run
        exact ⟨service, rfl, finish_ok (planTools_ok steady planned) run⟩

theorem ok_of_toOption {ε α : Type} {outcome : Except ε α} {x : α}
    (h : outcome.toOption = some x) : outcome = .ok x := by
  cases outcome with
  | error e => cases h
  | ok y =>
    cases h
    rfl

theorem planned_of_join {run : PlanRun} {p : Plan} (h : run.outcome.toOption.join = some p) :
    run.outcome = .ok (some p) :=
  ok_of_toOption (Option.join_eq_some_iff.mp h)

theorem planned_of_summary {α : Type} {run : PlanRun} {summary : Plan → α} {x : α}
    (h : run.outcome.toOption.join.map summary = some x) :
    ∃ p, run.outcome = .ok (some p) ∧ summary p = x := by
  obtain ⟨p, joined, same⟩ := Option.map_eq_some_iff.mp h
  exact ⟨p, planned_of_join joined, same⟩

end Planner

theorem Conversion.engine_steady (c : Catalog) : Planner.Steady (Conversion.engine c) :=
  fun _ _ => rfl

end Toolbridge
