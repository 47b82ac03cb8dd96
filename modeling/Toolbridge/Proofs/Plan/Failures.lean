import Toolbridge.Proofs.Conversion.Openings
import Toolbridge.Proofs.Plan.Course
import Toolbridge.Proofs.Plan.Requests

set_option autoImplicit false

namespace Toolbridge.Planner

/-- Whatever the draft, only such errors come out. -/
def Throws {α : Type} (P : Stop PlanError → Prop) (m : Planner α) : Prop :=
  ∀ d e d', m d = (.error e, d') → P e

section Steps

variable {α β : Type} {P : Stop PlanError → Prop}

theorem throws_of_ok {m : Planner α} (ok : ∀ d, ∃ x d', m d = (.ok x, d')) : Throws P m := by
  intro d e d' run
  obtain ⟨x, between, same⟩ := ok d
  rw [same] at run
  cases run

theorem Throws.mono {Q : Stop PlanError → Prop} {m : Planner α} (h : Throws P m)
    (sub : ∀ stop, P stop → Q stop) : Throws Q m :=
  fun d e d' run => sub e (h d e d' run)

theorem throws_pure (x : α) : Throws P (pure x : Planner α) := throws_of_ok fun _ => ⟨x, _, rfl⟩

theorem throws_throw {stop : Stop PlanError} (h : P stop) : Throws P (throw stop : Planner α) := by
  intro d e d' run
  cases run
  exact h

theorem throws_fail {e : PlanError} (h : P (.failed e)) : Throws P (fail e : Planner α) :=
  throws_throw h

theorem throws_note (r : LogRecord) : Throws P (note r) :=
  throws_of_ok fun _ => ⟨(), _, rfl⟩

/-- What comes next has to be looked at only for what the first step can return. -/
theorem throws_bind {m : Planner α} {g : α → Planner β} (first : Throws P m)
    (next : ∀ d x d', m d = (.ok x, d') → Throws P (g x)) : Throws P (m >>= g) := by
  intro d e d' run
  have step : (m >>= g) d = ExceptT.bindCont g (m d).1 (m d).2 := rfl
  rw [step] at run
  cases start : m d with
  | mk outcome between =>
    rw [start] at run
    cases outcome with
    | error stop =>
      cases run
      exact first d e _ start
    | ok x => exact next d x between start between e d' run

theorem throws_seq {m : Planner Unit} {m' : Planner α} (first : Throws P m)
    (second : Throws P m') : Throws P (m >>= fun _ => m') :=
  throws_bind first fun _ _ _ _ => second

/-- A steady engine answers as if nothing had been asked before. -/
theorem throws_request {engine : Engine} (steady : Steady engine) {r : ConversionRequest}
    {g : Except (Stop ConversionError) ConversionOutput → Planner α}
    (next : Throws P (g (engine [] r))) : Throws P (request engine r >>= g) := by
  refine throws_bind (throws_of_ok fun d => ⟨engine d.requests r, _, rfl⟩) ?_
  intro d answer d' asked
  obtain ⟨rfl, -⟩ := request_ok asked
  rwa [steady]

end Steps

/-- What stands against a projection, with the error that tells it. -/
inductive ProjectionFault (s : Setting) (tool : Tool) (method : MethodBinding) (p : Projection) :
    PlanError → Prop where
  | field (missing : (s.catalog.field? method.result p.field).filter (fun a => !a.isEmpty) = none) :
      ProjectionFault s tool method p
        (.serverDataFieldMissing s.toolset.name tool.qualifiedName p.kind p.field)
  | type (missing : s.index.get? (serverDataTypeName tool p) = none) :
      ProjectionFault s tool method p
        (.serverDataTypeMissing s.toolset.name tool.qualifiedName p.kind
          (serverDataTypeName tool p))
  | compared {source target : End} {e : Incompatibility}
      (ends : Direction.ends? s (.projection tool method p) = some (source, target))
      (parted : s.catalog.checkCompatible source.attr target.attr source.label target.label =
        .error (.failed e)) :
      ProjectionFault s tool method p
        (.serverDataIncompatible s.toolset.name tool.qualifiedName p.kind e)
  | converted {source target : End} {e : ConversionError}
      (ends : Direction.ends? s (.projection tool method p) = some (source, target))
      (accepted : Accepted s source target)
      (failed : s.engine [] (conversionRequest source target
        (projectionVariable s method p source.attr)) = .error (.failed e)) :
      ProjectionFault s tool method p
        (.conversionFailed s.toolset.name tool.qualifiedName
          ("Init" ++ tool.goName ++ p.goKind ++ "ServerData") e)

def methodRef (method : MethodBinding) : MethodDatum → Option String
  | .payload => method.payloadRef
  | .result => method.resultRef

/-- The walk over the types at the ends of the direction has no end. -/
def Endless (s : Setting) (x : Direction) : Prop :=
  ∃ source target, x.ends? s = some (source, target) ∧
    (s.catalog.checkCompatible source.attr target.attr source.label target.label =
        .error .unfinished ∨
      Accepted s source target ∧
        s.engine [] (conversionRequest source target (x.sourceVar s source.attr)) =
          .error .unfinished)

inductive Fault (s : Setting) : Stop PlanError → Prop where
  | reference {tool : Tool} {method : MethodBinding} {datum : MethodDatum}
      (mem : tool ∈ s.toolset.tools) (bound : tool.method = some method)
      (missing : ¬ Given (methodRef method datum)) :
      Fault s (.failed (.missingTypeRef s.toolset.name tool.qualifiedName datum))
  | projection {tool : Tool} {method : MethodBinding} {p : Projection} {e : PlanError}
      (mem : tool ∈ s.toolset.tools) (bound : tool.method = some method)
      (declared : p ∈ tool.serverData) (fault : ProjectionFault s tool method p e) :
      Fault s (.failed e)
  | helpers (conflict : HelperConflict) : Fault s (.failed (.helperConflict conflict))
  | imports (collision : NameCollision) : Fault s (.failed (.importCollision collision))
  | endless {x : Direction} (mem : x ∈ directions s.toolset.tools) (walk : Endless s x) :
      Fault s .unfinished

/-- Every answer with a body has something to plan. -/
def Articulate (engine : Engine) : Prop :=
  ∀ earlier r output, engine earlier r = .ok output → Text.isBlank output.body = false

theorem engine_articulate (c : Catalog) : Articulate (Conversion.engine c) := by
  intro earlier r output answer
  obtain ⟨code, built, rfl⟩ := Conversion.engine_eq_ok.mp answer
  exact Conversion.not_blank_of_build built

section Faults

variable {s : Setting} {tool : Tool} {method : MethodBinding} {p : Projection} {x : Direction}
  {source target : End}

theorem throws_requiredRef {reference : Option String} {datum : MethodDatum}
    {P : Stop PlanError → Prop}
    (missing : ¬ Given reference →
      P (.failed (.missingTypeRef s.toolset.name tool.qualifiedName datum))) :
    Throws P (requiredRef s tool reference datum) := by
  unfold requiredRef
  cases reference with
  | none => exact throws_fail (missing fun given => given rfl)
  | some text =>
    dsimp only
    split
    · rename_i empty
      refine throws_fail (missing fun given => given ?_)
      exact String.isEmpty_iff.mp empty
    · exact throws_pure _

theorem checkedBody_full {function : String} {output : ConversionOutput} {required : Bool}
    (full : Text.isBlank output.body = false) :
    checkedBody s tool function output required = pure (some output) := by
  unfold checkedBody
  rw [full]
  rfl

theorem throws_addFunction {P : Stop PlanError → Prop}
    (conflicts : ∀ e, P (.failed (.helperConflict e))) (function : PlannedFunction)
    (helpers : List Helper) (a b : Attribute) :
    Throws P (addFunction s function helpers a b) := by
  unfold addFunction
  refine throws_seq (throws_of_ok fun _ => ⟨(), _, rfl⟩) ?_
  refine throws_bind (throws_of_ok fun d => ⟨d, d, rfl⟩) fun _ d _ _ => ?_
  refine throws_seq (throws_of_ok fun _ => ⟨(), _, rfl⟩) ?_
  cases (d.helpers.extend helpers).2 with
  | none => exact throws_of_ok fun _ => ⟨(), _, rfl⟩
  | some conflict => exact throws_fail (conflicts conflict)

theorem throws_optionalConversion (steady : Steady s.engine) (full : Articulate s.engine)
    {function : String} (mem : x ∈ directions s.toolset.tools)
    (ends : x.ends? s = some (source, target)) (plain : x.sourceVar s source.attr = "v") :
    Throws (Fault s) (optionalConversion s tool function source target) := by
  unfold optionalConversion
  cases compared : s.catalog.checkCompatible source.attr target.attr source.label target.label with
  | error stop =>
    cases stop with
    | unfinished => exact throws_throw (.endless mem ⟨source, target, ends, .inl compared⟩)
    -- two shapes that do not agree are told in the log, and the conversion is left out
    | failed e => exact throws_seq (throws_note _) (throws_pure _)
  | ok _ =>
    refine throws_request steady ?_
    cases answered : s.engine [] (conversionRequest source target "v") with
    | error stop =>
      cases stop with
      | unfinished =>
        rw [← plain] at answered
        exact throws_throw (.endless mem ⟨source, target, ends, .inr ⟨compared, answered⟩⟩)
      | failed e => exact throws_seq (throws_note _) (throws_pure _)
    | ok output =>
      dsimp only
      rw [checkedBody_full (full _ _ _ answered)]
      exact throws_pure _

theorem throws_addConverted {P : Stop PlanError → Prop}
    (conflicts : ∀ e, P (.failed (.helperConflict e))) (function : String → PlannedFunction)
    (a b : Attribute) (kept : Option ConversionOutput) :
    Throws P (addConverted s function a b kept) := by
  cases kept with
  | none => exact throws_pure ()
  | some output => exact throws_addFunction conflicts _ _ _ _

theorem throws_where_known {P : Stop PlanError → Prop} {missing : Bool} {found : Option Attribute}
    {ends : Attribute → End × End} {convert : Attribute → Planner Unit} {m : Planner Unit}
    (course : m = if missing then pure () else
      match found with
      | none => pure ()
      | some own => convert own)
    (known : x.ends? s = if missing then none else found.map ends)
    (converted : ∀ own, x.ends? s = some (ends own) → Throws P (convert own)) : Throws P m := by
  rw [course]
  cases missing with
  | true => exact throws_pure ()
  | false =>
    cases found with
    | none => exact throws_pure ()
    | some own => exact converted own known

theorem throws_planPayload (steady : Steady s.engine) (full : Articulate s.engine)
    (mem : .payload tool method ∈ directions s.toolset.tools) (payloadRef : String) :
    Throws (Fault s) (planPayload s tool method payloadRef) := by
  refine throws_where_known (x := .payload tool method) rfl rfl fun own ends => ?_
  refine throws_bind (throws_optionalConversion steady full mem ends rfl) fun _ kept _ _ => ?_
  exact throws_addConverted .helpers (fun body => ⟨_, _, _, body, _⟩) _ _ kept

theorem throws_planResult (steady : Steady s.engine) (full : Articulate s.engine)
    (mem : .result tool method ∈ directions s.toolset.tools) (resultRef : String) :
    Throws (Fault s) (planResult s tool method resultRef) := by
  refine throws_where_known (x := .result tool method) rfl rfl fun own ends => ?_
  refine throws_bind (throws_optionalConversion steady full mem ends rfl) fun _ kept _ _ => ?_
  exact throws_addConverted .helpers (fun body => ⟨_, _, _, body, _⟩) _ _ kept

theorem throws_projectedField (mem : tool ∈ s.toolset.tools) (bound : tool.method = some method)
    (declared : p ∈ tool.serverData) : Throws (Fault s) (projectedField s tool method p) := by
  unfold projectedField
  cases found : (s.catalog.field? method.result p.field).filter fun a => !a.isEmpty with
  | none => exact throws_fail (.projection mem bound declared (.field found))
  | some a => exact throws_pure a

theorem throws_serverDataType (mem : tool ∈ s.toolset.tools) (bound : tool.method = some method)
    (declared : p ∈ tool.serverData) : Throws (Fault s) (serverDataType s tool p) := by
  unfold serverDataType
  cases found : s.index.get? (serverDataTypeName tool p) with
  | none => exact throws_fail (.projection mem bound declared (.type found))
  | some a => exact throws_pure a

theorem throws_serverDataStep (steady : Steady s.engine) (full : Articulate s.engine)
    (mem : tool ∈ s.toolset.tools) (bound : tool.method = some method)
    (declared : p ∈ tool.serverData) {a b : Attribute}
    (ends : Direction.ends? s (.projection tool method p) =
      some (projectionSource s method p a, projectionTarget tool p b)) :
    Throws (Fault s) (serverDataStep s tool method p a b) := by
  have known := projection_mem mem bound declared
  unfold serverDataStep requireCompatible
  refine throws_bind ?_ fun d _ d' compared => ?_
  · cases compared : s.catalog.checkCompatible (projectionSource s method p a).attr
      (projectionTarget tool p b).attr (projectionSource s method p a).label
      (projectionTarget tool p b).label with
    | ok _ => exact throws_pure ()
    | error stop =>
      cases stop with
      | unfinished => exact throws_throw (.endless known ⟨_, _, ends, .inl compared⟩)
      | failed e => exact throws_fail (.projection mem bound declared (.compared ends compared))
  obtain ⟨accepted, -⟩ := requireCompatible_ok compared
  refine throws_request steady ?_
  cases answered : s.engine [] (conversionRequest (projectionSource s method p a)
    (projectionTarget tool p b) (projectionVariable s method p a)) with
  | error stop =>
    cases stop with
    | unfinished => exact throws_throw (.endless known ⟨_, _, ends, .inr ⟨accepted, answered⟩⟩)
    | failed e =>
      exact throws_fail (.projection mem bound declared (.converted ends accepted answered))
  | ok output =>
    dsimp only
    rw [checkedBody_full (full _ _ _ answered)]
    exact throws_bind (throws_pure _) fun _ kept _ _ =>
      throws_addConverted .helpers (projectionFunction s tool method p a b) a b kept

theorem throws_planServerData (steady : Steady s.engine) (full : Articulate s.engine)
    (mem : tool ∈ s.toolset.tools) (bound : tool.method = some method)
    (declared : p ∈ tool.serverData) : Throws (Fault s) (planServerData s tool method p) := by
  rw [planServerData_eq]
  refine throws_bind (throws_projectedField mem bound declared) fun _ a _ projected => ?_
  refine throws_bind (throws_serverDataType mem bound declared) fun _ b _ found => ?_
  refine throws_serverDataStep steady full mem bound declared ?_
  simp only [Direction.ends?, (projectedField_ok projected).1, (serverDataType_ok found).1,
    Option.bind_some, Option.map_some]

theorem throws_planProjections {P : Stop PlanError → Prop} {projections : List Projection}
    (each : ∀ p ∈ projections, Throws P (planServerData s tool method p)) :
    Throws P (planProjections s tool method projections) := by
  induction projections with
  | nil => exact throws_pure ()
  | cons p rest ih =>
    obtain ⟨here, others⟩ := List.forall_mem_cons.mp each
    exact throws_seq here (ih others)

theorem throws_planTool (steady : Steady s.engine) (full : Articulate s.engine)
    (mem : tool ∈ s.toolset.tools) (bound : tool.method = some method) :
    Throws (Fault s) (planTool s tool method) := by
  have own : ∀ x ∈ toolDirections tool, x ∈ directions s.toolset.tools :=
    fun x here => List.mem_flatMap.mpr ⟨tool, mem, here⟩
  rw [toolDirections_of_bound bound] at own
  unfold planTool
  refine throws_bind (throws_requiredRef fun missing => ?_) fun _ payloadRef _ _ => ?_
  · exact .reference mem bound missing
  refine throws_bind (throws_requiredRef fun missing => ?_) fun _ resultRef _ _ => ?_
  · exact .reference mem bound missing
  refine throws_seq (throws_planPayload steady full (own _ List.mem_cons_self) payloadRef) ?_
  refine throws_seq (throws_planResult steady full
    (own _ (List.mem_cons_of_mem _ List.mem_cons_self)) resultRef) ?_
  exact throws_planProjections fun p => throws_planServerData steady full mem bound

theorem throws_planTools {P : Stop PlanError → Prop} {tools : List Tool}
    (each : ∀ tool ∈ tools, ∀ method, tool.method = some method →
      Throws P (planTool s tool method)) : Throws P (planTools s tools) := by
  induction tools with
  | nil => exact throws_pure ()
  | cons tool rest ih =>
    obtain ⟨here, others⟩ := List.forall_mem_cons.mp each
    unfold planTools
    cases bound : tool.method with
    | none => exact throws_seq (throws_note _) (ih others)
    | some method => exact throws_seq (here method bound) (ih others)

theorem throws_finish {P : Stop PlanError → Prop}
    (collisions : ∀ e, P (.failed (.importCollision e))) (specsDir : String) (service : Service) :
    Throws P (finish s specsDir service) := by
  unfold finish
  refine throws_bind (throws_of_ok fun d => ⟨d, d, rfl⟩) fun _ d _ _ => ?_
  split
  · exact throws_seq (throws_note _) (throws_pure none)
  · split
    · exact throws_fail (collisions _)
    · exact throws_seq (throws_note _) (throws_pure _)

end Faults

section Plans

variable {c : Catalog} {engine : Engine} {root : String} {toolset : Toolset} {index : SpecsIndex}
  {P : Stop PlanError → Prop}

/-- A plan stops at its tools or at its imports. -/
theorem throws_plan (parts : ∀ service, toolset.sourceService = some service →
      Throws P (planTools ⟨c, engine, root, toolset, service.package, index⟩ toolset.tools) ∧
        ∀ e, P (.failed (.importCollision e))) :
    Throws P (plan c engine root toolset index) := by
  unfold plan
  split
  · exact throws_seq (throws_note _) (throws_pure none)
  · split
    · exact throws_seq (throws_note _) (throws_pure none)
    · rename_i service given
      obtain ⟨tools, collisions⟩ := parts service given
      split
      · exact throws_seq (throws_note _) (throws_pure none)
      · exact throws_seq tools (throws_finish collisions _ service)

theorem Throws.stop {stop : Stop PlanError} (throws : Throws P (plan c engine root toolset index))
    (failed : (planWith c engine root toolset index).outcome = .error stop) : P stop :=
  throws {} stop _ (Prod.ext failed rfl)

theorem fault_of_error {stop : Stop PlanError} (steady : Steady engine) (full : Articulate engine)
    (failed : (planWith c engine root toolset index).outcome = .error stop) :
    ∃ service, toolset.sourceService = some service ∧
      Fault ⟨c, engine, root, toolset, service.package, index⟩ stop := by
  have throws : Throws (fun stop => ∃ service, toolset.sourceService = some service ∧
      Fault ⟨c, engine, root, toolset, service.package, index⟩ stop)
      (plan c engine root toolset index) := by
    refine throws_plan fun service given => ⟨?_, fun e => ⟨service, given, .imports e⟩⟩
    refine throws_planTools fun tool mem method bound => ?_
    exact (throws_planTool steady full mem bound).mono fun _ fault => ⟨service, given, fault⟩
  exact throws.stop failed

end Plans

/-- The errors that tell of a projection. -/
def tellsOfProjection : PlanError → Bool
  | .serverDataFieldMissing _ _ _ _ | .serverDataTypeMissing _ _ _ _
  | .serverDataIncompatible _ _ _ _ | .conversionFailed _ _ _ _ => true
  | _ => false

/-- No tool with a method has a projection, and the types of all methods can be referred to. -/
structure OptionalOnly (toolset : Toolset) : Prop where
  projections : ∀ tool ∈ toolset.tools, tool.method.isSome = true → tool.serverData = []
  references : ∀ tool ∈ toolset.tools, ∀ method, tool.method = some method →
    ∀ datum, Given (methodRef method datum)

/-- What is left to stop a run that has only payloads and results to plan. -/
inductive Conflict (s : Setting) : Stop PlanError → Prop where
  | helpers (conflict : HelperConflict) : Conflict s (.failed (.helperConflict conflict))
  | imports (collision : NameCollision) : Conflict s (.failed (.importCollision collision))
  | endless {x : Direction} (mem : x ∈ directions s.toolset.tools) (walk : Endless s x) :
      Conflict s .unfinished

section Stops

variable {s : Setting} {stop : Stop PlanError}

theorem Fault.not_blank (fault : Fault s stop) (toolset tool function : String) (helpers : Nat) :
    stop ≠ .failed (.emptyBody toolset tool function helpers) := by
  rintro rfl
  cases fault with
  | projection mem bound declared fault => cases fault

theorem Fault.projected {e : PlanError} (fault : Fault s (.failed e))
    (tells : tellsOfProjection e = true) :
    ∃ tool method p, tool ∈ s.toolset.tools ∧ tool.method = some method ∧ p ∈ tool.serverData ∧
      ProjectionFault s tool method p e := by
  cases fault with
  | reference => cases tells
  | projection mem bound declared fault => exact ⟨_, _, _, mem, bound, declared, fault⟩
  | helpers => cases tells
  | imports => cases tells

theorem Fault.conflict (fault : Fault s stop) (only : OptionalOnly s.toolset) :
    Conflict s stop := by
  cases fault with
  | reference mem bound missing => exact absurd (only.references _ mem _ bound _) missing
  | projection mem bound declared fault =>
    rw [only.projections _ mem (Option.isSome_of_mem bound)] at declared
    cases declared
  | helpers conflict => exact .helpers conflict
  | imports collision => exact .imports collision
  | endless mem walk => exact .endless mem walk

end Stops

/-- No outcome tells of a blank body, one that tells of a projection has met with it, and without
projections a plan that does not come out has met with a conflict. -/
structure StopsFor (c : Catalog) (root : String) (toolset : Toolset) (index : SpecsIndex)
    (outcome : Except (Stop PlanError) (Option Plan)) : Prop where
  content : ∀ name tool function helpers,
    outcome ≠ .error (.failed (.emptyBody name tool function helpers))
  projected : ∀ e, tellsOfProjection e = true → outcome = .error (.failed e) →
    ∃ service tool method p, toolset.sourceService = some service ∧ tool ∈ toolset.tools ∧
      tool.method = some method ∧ p ∈ tool.serverData ∧
        ProjectionFault (goSetting c root toolset service index) tool method p e
  optional : OptionalOnly toolset → (∃ p?, outcome = .ok p?) ∨
    ∃ service stop, toolset.sourceService = some service ∧ outcome = .error stop ∧
      Conflict (goSetting c root toolset service index) stop

/-- Payloads and results never stop a plan with the engine that writes Go, whether or not they can
be converted. -/
theorem payloads_and_results_never_stop (c : Catalog) :
    Articulate (Conversion.engine c) ∧
      ∀ root toolset index, StopsFor c root toolset index
        (planWith c (Conversion.engine c) root toolset index).outcome := by
  refine ⟨engine_articulate c, fun root toolset index => ?_⟩
  have fault : ∀ stop, (planWith c (Conversion.engine c) root toolset index).outcome = .error stop →
      ∃ service, toolset.sourceService = some service ∧
        Fault (goSetting c root toolset service index) stop :=
    fun stop => fault_of_error (Conversion.engine_steady c) (engine_articulate c)
  constructor
  · intro name tool function helpers failed
    obtain ⟨service, given, here⟩ := fault _ failed
    exact here.not_blank name tool function helpers rfl
  · intro e tells failed
    obtain ⟨service, given, here⟩ := fault _ failed
    obtain ⟨tool, method, p, against⟩ := here.projected tells
    exact ⟨service, tool, method, p, given, against⟩
  · intro only
    cases outcome : (planWith c (Conversion.engine c) root toolset index).outcome with
    | ok p? => exact .inl ⟨p?, rfl⟩
    | error stop =>
      obtain ⟨service, given, here⟩ := fault stop outcome
      exact .inr ⟨service, stop, given, rfl, here.conflict only⟩

/-! A tool whose payload is of another shape and whose result is a union of two strings, without a
projection and with one of a field that the result does not have. -/
namespace Unconvertible

def text : Attribute := .ofType (.primitive .string)

def either : Attribute := .ofType (.union [⟨"title", text⟩, ⟨"label", text⟩])

def method : MethodBinding :=
  { name := "Read", payload := .ofType (.primitive .int), result := either,
    payloadRef := some "int", resultRef := some "any" }

def owner : Projection := { kind := "owner", field := "owner" }

def tool (serverData : List Projection) : Tool :=
  { name := "read", qualifiedName := "alpha.notes.read", args := text, result := either,
    method := some method, serverData }

def alpha : Service := ⟨"alpha", "alpha"⟩

def toolset (serverData : List Projection) : Toolset :=
  { name := "alpha.notes", specsDir := some "gen/notes", specsPackage := "notes",
    sourceService := some alpha, tools := [tool serverData] }

def run (serverData : List Projection) : PlanRun :=
  planToolset ⟨[]⟩ "example.com/gen" (toolset serverData)

def error? (serverData : List Projection) : Option PlanError :=
  match (run serverData).outcome with
  | .error (.failed e) => some e
  | _ => none

theorem without_projections : OptionalOnly (toolset []) := by
  constructor
  · intro t mem _
    obtain rfl := List.mem_singleton.mp mem
    rfl
  · intro t mem m bound datum
    obtain rfl := List.mem_singleton.mp mem
    obtain rfl := Option.some.inj bound
    cases datum with
    | payload =>
      change "int" ≠ ""
      decide
    | result =>
      change "any" ≠ ""
      decide

theorem owner_stops :
    (run []).outcome = .ok none ∧
      ((∃ p?, (run []).outcome = .ok p?) ∨
        ∃ service stop, (toolset []).sourceService = some service ∧
          (run []).outcome = .error stop ∧
            Conflict (goSetting ⟨[]⟩ "example.com/gen" (toolset []) service
              (SpecsIndex.ofToolset ⟨[]⟩ (toolset []))) stop) ∧
      error? [owner] =
        some (.serverDataFieldMissing "alpha.notes" "alpha.notes.read" "owner" "owner") ∧
      ∃ service t m p, (toolset [owner]).sourceService = some service ∧
        t ∈ (toolset [owner]).tools ∧ t.method = some m ∧ p ∈ t.serverData ∧
          ProjectionFault (goSetting ⟨[]⟩ "example.com/gen" (toolset [owner]) service
            (SpecsIndex.ofToolset ⟨[]⟩ (toolset [owner]))) t m p
            (.serverDataFieldMissing "alpha.notes" "alpha.notes.read" "owner" "owner") := by
  obtain ⟨-, stops⟩ := payloads_and_results_never_stop ⟨[]⟩
  have planned : (run []).outcome.toOption.map Option.isSome = some false := by decide +kernel
  have told : error? [owner] =
      some (.serverDataFieldMissing "alpha.notes" "alpha.notes.read" "owner" "owner") := by
    decide +kernel
  have failed : (run [owner]).outcome = .error (.failed
      (.serverDataFieldMissing "alpha.notes" "alpha.notes.read" "owner" "owner")) := by
    unfold error? at told
    split at told
    · rename_i e outcome
      cases told
      exact outcome
    · cases told
  refine ⟨?_, (stops "example.com/gen" (toolset []) _).optional without_projections, told, ?_⟩
  · obtain ⟨p?, ok, nothing⟩ := Option.map_eq_some_iff.mp planned
    have planless := Option.isNone_iff_eq_none.mp (Option.isSome_eq_false_iff.mp nothing)
    rw [ok_of_toOption ok, planless]
  · exact (stops "example.com/gen" (toolset [owner]) _).projected _ rfl failed

end Unconvertible

end Toolbridge.Planner
