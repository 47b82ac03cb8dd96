import Toolbridge.Proofs.Plan.EngineCalls

set_option autoImplicit false

namespace Toolbridge.Planner

/-- What a planner comes to on its way through the tools. -/
inductive Turn where
  | unbound (tool : Tool)
  | conversion (x : Direction)

def Turn.direction? : Turn → Option Direction
  | .unbound _ => none
  | .conversion x => some x

def toolTurns (tool : Tool) : List Turn :=
  match tool.method with
  | none => [.unbound tool]
  | some _ => (toolDirections tool).map .conversion

/-- All that a planner comes to, in the order in which the tools declare it. -/
def turns (tools : List Tool) : List Turn := tools.flatMap toolTurns

theorem toolTurns_directions (tool : Tool) :
    (toolTurns tool).filterMap (·.direction?) = toolDirections tool := by
  unfold toolTurns
  cases bound : tool.method with
  | none =>
    unfold toolDirections
    rw [bound]
    rfl
  | some _ =>
    rw [List.filterMap_map]
    exact List.filterMap_some

theorem turns_directions (tools : List Tool) :
    (turns tools).filterMap (·.direction?) = directions tools := by
  unfold turns directions
  rw [List.filterMap_flatMap]
  exact List.flatMap_congr fun tool _ => toolTurns_directions tool

section Runs

variable {α : Type} {s : Setting} {d d' : Draft} {x : Direction} {source target : End}
  {tool : Tool} {method : MethodBinding} {p : Projection}

def afterRequest (d : Draft) (r : ConversionRequest) : Draft :=
  { d with requests := d.requests ++ [r] }

def noted (d : Draft) (r : LogRecord) : Draft := { d with log := d.log ++ [r] }

theorem note_noted {r : LogRecord} {u : Unit} (h : note r d = (.ok u, d')) : d' = noted d r := by
  cases h
  rfl

theorem quiet_noted (d : Draft) (r : LogRecord) : Quiet d (noted d r) := ⟨rfl, rfl⟩

theorem request_called {engine : Engine} {r : ConversionRequest}
    {answer : Except (Stop ConversionError) ConversionOutput}
    (h : request engine r d = (.ok answer, d')) :
    answer = engine d.requests r ∧ d' = afterRequest d r := by
  cases h
  exact ⟨rfl, rfl⟩

theorem requiredRef_keeps {reference : Option String} {datum : MethodDatum} {text : String}
    (h : requiredRef s tool reference datum d = (.ok text, d')) : d = d' := by
  unfold requiredRef at h
  cases reference with
  | none => exact absurd h not_fail
  | some given =>
    dsimp only at h
    split at h
    · exact absurd h not_fail
    · cases h
      rfl

theorem projectedField_keeps {a : Attribute} (h : projectedField s tool method p d = (.ok a, d')) :
    d = d' := by
  unfold projectedField at h
  rw [(projectedField_ok h).1] at h
  cases h
  rfl

theorem serverDataType_keeps {a : Attribute} (h : serverDataType s tool p d = (.ok a, d')) :
    d = d' := by
  unfold serverDataType at h
  rw [(serverDataType_ok h).1] at h
  cases h
  rfl

theorem requireCompatible_keeps {u : Unit}
    (h : requireCompatible s tool p source target d = (.ok u, d')) : d = d' := by
  unfold requireCompatible at h
  rw [(requireCompatible_ok h).1] at h
  cases h
  rfl

theorem checkedBody_cases {function : String} {output : ConversionOutput} {required : Bool}
    {kept : Option ConversionOutput}
    (h : checkedBody s tool function output required d = (.ok kept, d')) :
    (Text.isBlank output.body = false ∧ kept = some output ∧ d' = d) ∨
      (Text.isBlank output.body = true ∧ required = false ∧ kept = none ∧
        d' = noted d (.emptyBody tool.qualifiedName function)) := by
  unfold checkedBody at h
  split at h
  · rename_i full
    cases h
    exact .inl ⟨by simpa using full, rfl, rfl⟩
  · rename_i blank
    split at h
    · exact absurd h not_fail
    · rename_i optional
      obtain ⟨_, e, told, rest⟩ := bind_ok h
      cases rest
      rw [Bool.or_eq_true, not_or] at optional
      exact .inr ⟨by simpa using blank, by simpa using optional.1, rfl, note_noted told⟩

theorem addFunction_functions {function : PlannedFunction} {helpers : List Helper}
    {a b : Attribute} {u : Unit} (h : addFunction s function helpers a b d = (.ok u, d')) :
    d'.functions = d.functions ++ [function] ∧ d'.requests = d.requests ∧ d'.log = d.log := by
  unfold addFunction at h
  obtain ⟨_, e, added, h⟩ := bind_ok h
  cases added
  obtain ⟨_, e, got, h⟩ := bind_ok h
  cases got
  dsimp only at h
  obtain ⟨_, e, kept, h⟩ := bind_ok h
  cases kept
  cases conflict : (d.helpers.extend helpers).2 with
  | some reason =>
    rw [conflict] at h
    exact absurd h not_fail
  | none =>
    rw [conflict] at h
    cases h
    exact ⟨rfl, rfl, rfl⟩

/-- How a payload or a result that may be left out can go, and what it leaves behind. -/
inductive OptionalCourse (s : Setting) (d : Draft) (tool : Tool) (function : String)
    (source target : End) : Option ConversionOutput → Draft → Prop
  | incompatible {e : Incompatibility}
      (parted : s.catalog.checkCompatible source.attr target.attr source.label target.label =
        .error (.failed e)) :
      OptionalCourse s d tool function source target none
        (noted d (.incompatible tool.qualifiedName function e))
  | notConverted {e : ConversionError} (accepted : Accepted s source target)
      (failed : s.engine d.requests (conversionRequest source target "v") = .error (.failed e)) :
      OptionalCourse s d tool function source target none
        (noted (afterRequest d (conversionRequest source target "v"))
          (.notConverted tool.qualifiedName function e))
  | emptyBody {output : ConversionOutput} (accepted : Accepted s source target)
      (answered : s.engine d.requests (conversionRequest source target "v") = .ok output)
      (blank : Text.isBlank output.body = true) :
      OptionalCourse s d tool function source target none
        (noted (afterRequest d (conversionRequest source target "v"))
          (.emptyBody tool.qualifiedName function))
  | converted {output : ConversionOutput} (accepted : Accepted s source target)
      (answered : s.engine d.requests (conversionRequest source target "v") = .ok output)
      (full : Text.isBlank output.body = false) :
      OptionalCourse s d tool function source target (some output)
        (afterRequest d (conversionRequest source target "v"))

theorem optionalConversion_course {function : String} {kept : Option ConversionOutput}
    (h : optionalConversion s tool function source target d = (.ok kept, d')) :
    OptionalCourse s d tool function source target kept d' := by
  unfold optionalConversion at h
  cases compared : s.catalog.checkCompatible source.attr target.attr source.label target.label with
  | error stop =>
    rw [compared] at h
    cases stop with
    | unfinished => cases h
    | failed e =>
      obtain ⟨_, e, told, rest⟩ := bind_ok h
      cases rest
      rw [note_noted told]
      exact .incompatible compared
  | ok _ =>
    rw [compared] at h
    obtain ⟨answer, e, asked, rest⟩ := bind_ok h
    obtain ⟨rfl, rfl⟩ := request_called asked
    cases answered : s.engine d.requests (conversionRequest source target "v") with
    | error stop =>
      rw [answered] at rest
      cases stop with
      | unfinished => cases rest
      | failed e =>
        obtain ⟨_, e', told, done⟩ := bind_ok rest
        cases done
        rw [note_noted told]
        exact .notConverted compared answered
    | ok output =>
      rw [answered] at rest
      rcases checkedBody_cases rest with ⟨full, rfl, rfl⟩ | ⟨blank, -, rfl, rfl⟩
      · exact .converted compared answered full
      · exact .emptyBody compared answered blank

theorem content?_full {output : ConversionOutput} (full : Text.isBlank output.body = false) :
    content? (.ok output) = some output := if_neg (Bool.eq_false_iff.mp full)

theorem content?_blank {output : ConversionOutput} (blank : Text.isBlank output.body = true) :
    content? (.ok output) = none := if_pos blank

/-- Ends that are not accepted are never put to the engine; others are, once. -/
theorem optionalConversion_called {function : String} {kept : Option ConversionOutput}
    (h : optionalConversion s tool function source target d = (.ok kept, d')) :
    (¬ Accepted s source target ∧ kept = none ∧ Quiet d d') ∨
      (Accepted s source target ∧
        kept = content? (s.engine d.requests (conversionRequest source target "v")) ∧
          Quiet (afterRequest d (conversionRequest source target "v")) d') := by
  cases optionalConversion_course h with
  | incompatible parted =>
    exact .inl ⟨fun accepted => (nomatch parted.symm.trans accepted), rfl, quiet_noted _ _⟩
  | notConverted accepted failed =>
    rw [failed]
    exact .inr ⟨accepted, rfl, quiet_noted _ _⟩
  | emptyBody accepted answered blank =>
    rw [answered, content?_blank blank]
    exact .inr ⟨accepted, rfl, quiet_noted _ _⟩
  | converted accepted answered full =>
    rw [answered, content?_full full]
    exact .inr ⟨accepted, rfl, .refl _⟩

theorem converted_serves {name : String} {u : Unit} (optional : x.isProjection = false)
    (plain : x.sourceVar s source.attr = "v") (ends : x.ends? s = some (source, target))
    (h : (optionalConversion s tool name source target >>=
      addConverted s (fun body => x.function s source.attr target.attr body) source.attr
        target.attr) d = (.ok u, d')) : Serves s d d' [x] := by
  obtain ⟨kept, e, made, rest⟩ := bind_ok h
  rcases optionalConversion_called made with ⟨rejected, rfl, quiet⟩ | ⟨accepted, content, quiet⟩
  · cases rest
    have skipped : x.asks s = false := Bool.eq_false_iff.mpr (mt (asks_iff ends).mp rejected)
    exact serves_skipped optional skipped quiet
  · have required : x.isProjection ≠ true := by
      rw [optional]
      decide
    let k : Call := ⟨x, source, target, s.engine d.requests (conversionRequest source target "v")⟩
    have request : k.request s = conversionRequest source target "v" :=
      congrArg (conversionRequest source target) plain
    have planned : d'.functions = d.functions ++ (k.function? s).toList ∧
        d'.requests = e.requests := by
      unfold Call.function?
      rw [← content]
      cases kept with
      | none =>
        cases rest
        exact ⟨quiet.functions.trans (List.append_nil _).symm, rfl⟩
      | some output =>
        obtain ⟨functions, requests, -⟩ := addFunction_functions rest
        exact ⟨functions.trans (congrArg (· ++ _) quiet.functions), requests⟩
    refine serves_called (k := k) ends accepted ?_ ?_ planned.1 fun projection =>
      absurd projection required
    · rw [request]
    · rw [request, planned.2, quiet.requests]
      rfl

theorem optional_cases {missing : Bool} {found : Option Attribute}
    {ends : Attribute → End × End} {convert : Attribute → Planner Unit} {u : Unit}
    (h : (if missing then pure () else
      match found with
      | none => pure ()
      | some own => convert own : Planner Unit) d = (.ok u, d'))
    (known : x.ends? s = if missing then none else found.map ends) :
    (x.ends? s = none ∧ d' = d) ∨
      ∃ own, x.ends? s = some (ends own) ∧ convert own d = (.ok u, d') := by
  cases missing with
  | true =>
    cases h
    exact .inl ⟨known, rfl⟩
  | false =>
    cases found with
    | none =>
      cases h
      exact .inl ⟨known, rfl⟩
    | some own => exact .inr ⟨own, known, h⟩

theorem planPayload_serves {u : Unit}
    (h : planPayload s tool method (method.payloadRef.getD "") d = (.ok u, d')) :
    Serves s d d' [.payload tool method] := by
  rcases optional_cases (x := .payload tool method) h rfl with ⟨missing, rfl⟩ | ⟨_, ends, converted⟩
  · exact serves_skipped rfl (asks_eq_false_of_none missing) (.refl _)
  · exact converted_serves rfl rfl ends converted

theorem planResult_serves {u : Unit}
    (h : planResult s tool method (method.resultRef.getD "") d = (.ok u, d')) :
    Serves s d d' [.result tool method] := by
  rcases optional_cases (x := .result tool method) h rfl with ⟨missing, rfl⟩ | ⟨_, ends, converted⟩
  · exact serves_skipped rfl (asks_eq_false_of_none missing) (.refl _)
  · exact converted_serves rfl rfl ends converted

theorem serverDataStep_course {source target : Attribute} {u : Unit}
    (h : serverDataStep s tool method p source target d = (.ok u, d')) :
    ∃ request output, request = conversionRequest (projectionSource s method p source)
        (projectionTarget tool p target) (projectionVariable s method p source) ∧
      Accepted s (projectionSource s method p source) (projectionTarget tool p target) ∧
      s.engine d.requests request = .ok output ∧ Text.isBlank output.body = false ∧
      d'.functions = d.functions ++ [projectionFunction s tool method p source target output.body] ∧
      d'.requests = d.requests ++ [request] ∧ d'.log = d.log := by
  unfold serverDataStep at h
  obtain ⟨_, e, compared, h⟩ := bind_ok h
  obtain rfl := requireCompatible_keeps compared
  obtain ⟨answer, e', asked, h⟩ := bind_ok h
  obtain ⟨answered, rfl⟩ := request_called asked
  cases answer with
  | error stop =>
    cases stop with
    | unfinished => cases h
    | failed e => exact absurd h not_fail
  | ok output =>
    obtain ⟨kept, e'', checked, h⟩ := bind_ok h
    rcases checkedBody_cases checked with ⟨full, rfl, rfl⟩ | ⟨-, optional, -⟩
    · exact ⟨_, output, rfl, (requireCompatible_ok compared).1, answered.symm, full,
        addFunction_functions h⟩
    · cases optional

theorem projection_ends {source target : Attribute}
    (projected : projectedField s tool method p d = (.ok source, d))
    (declared : serverDataType s tool p d = (.ok target, d)) :
    Direction.ends? s (.projection tool method p) =
      some (projectionSource s method p source, projectionTarget tool p target) := by
  simp only [Direction.ends?, (projectedField_ok projected).1, (serverDataType_ok declared).1,
    Option.bind_some, Option.map_some]

theorem serverDataStep_serves {source target : Attribute} {u : Unit}
    (ends : Direction.ends? s (.projection tool method p) =
      some (projectionSource s method p source, projectionTarget tool p target))
    (h : serverDataStep s tool method p source target d = (.ok u, d')) :
    Serves s d d' [.projection tool method p] := by
  obtain ⟨_, output, rfl, accepted, answered, full, functions, requests, -⟩ :=
    serverDataStep_course h
  let k : Call := ⟨.projection tool method p, projectionSource s method p source,
    projectionTarget tool p target, .ok output⟩
  have made : k.function? s =
      some (projectionFunction s tool method p source target output.body) :=
    congrArg (Option.map _) (content?_full full)
  refine serves_called (k := k) ends accepted answered.symm requests ?_ fun _ => ?_
  · rw [functions, made, Option.toList_some]
  · rw [made, Option.isSome_some]

theorem planServerData_serves {u : Unit} (h : planServerData s tool method p d = (.ok u, d')) :
    Serves s d d' [.projection tool method p] := by
  rw [planServerData_eq] at h
  obtain ⟨source, e, projected, h⟩ := bind_ok h
  obtain ⟨target, e', declared, h⟩ := bind_ok h
  obtain rfl := projectedField_keeps projected
  obtain rfl := serverDataType_keeps declared
  exact serverDataStep_serves (projection_ends projected declared) h

/-- A relation that each turn keeps, and that holds of turns in a row. -/
structure Walk (s : Setting) (R : List Turn → Draft → Draft → Prop) : Prop where
  refl : ∀ d, R [] d d
  trans : ∀ {ts us : List Turn} {d d' d'' : Draft}, R ts d d' → R us d' d'' → R (ts ++ us) d d''
  unbound : ∀ {tool : Tool} {d : Draft}, tool.method = none →
    R [.unbound tool] d (noted d (.notMethodBacked tool.qualifiedName))
  payload : ∀ {tool : Tool} {method : MethodBinding} {d d' : Draft} {u : Unit},
    planPayload s tool method (method.payloadRef.getD "") d = (.ok u, d') →
      R [.conversion (.payload tool method)] d d'
  result : ∀ {tool : Tool} {method : MethodBinding} {d d' : Draft} {u : Unit},
    planResult s tool method (method.resultRef.getD "") d = (.ok u, d') →
      R [.conversion (.result tool method)] d d'
  projection : ∀ {tool : Tool} {method : MethodBinding} {p : Projection} {d d' : Draft} {u : Unit},
    planServerData s tool method p d = (.ok u, d') →
      R [.conversion (.projection tool method p)] d d'

section Walks

variable {R : List Turn → Draft → Draft → Prop} {u : Unit}

theorem Walk.planProjections (w : Walk s R) {projections : List Projection}
    (h : planProjections s tool method projections d = (.ok u, d')) :
    R ((projections.map (.projection tool method)).map .conversion) d d' := by
  induction projections generalizing d with
  | nil =>
    cases h
    exact w.refl _
  | cons p rest ih =>
    obtain ⟨_, e, planned, h⟩ := bind_ok h
    exact w.trans (w.projection planned) (ih h)

theorem Walk.planTool (w : Walk s R) (bound : tool.method = some method)
    (h : planTool s tool method d = (.ok u, d')) : R (toolTurns tool) d d' := by
  unfold Planner.planTool at h
  obtain ⟨payloadRef, e₁, given, h⟩ := bind_ok h
  obtain ⟨resultRef, e₂, given', h⟩ := bind_ok h
  obtain rfl := requiredRef_keeps given
  obtain rfl := requiredRef_keeps given'
  obtain ⟨rfl, -⟩ := requiredRef_ok given
  obtain ⟨rfl, -⟩ := requiredRef_ok given'
  obtain ⟨_, e₃, payload, h⟩ := bind_ok h
  obtain ⟨_, e₄, result, h⟩ := bind_ok h
  unfold toolTurns toolDirections
  rw [bound]
  exact w.trans (w.payload payload) (w.trans (w.result result) (w.planProjections h))

theorem Walk.planTools (w : Walk s R) {tools : List Tool}
    (h : planTools s tools d = (.ok u, d')) : R (turns tools) d d' := by
  induction tools generalizing d with
  | nil =>
    cases h
    exact w.refl _
  | cons tool rest ih =>
    unfold Planner.planTools at h
    unfold turns
    rw [List.flatMap_cons]
    cases bound : tool.method with
    | none =>
      rw [bound] at h
      obtain ⟨_, e, told, h⟩ := bind_ok h
      obtain rfl := note_noted told
      have turn : toolTurns tool = [.unbound tool] := by
        unfold toolTurns
        rw [bound]
      have later := ih h
      rw [turn]
      exact w.trans (w.unbound bound) later
    | some method =>
      rw [bound] at h
      obtain ⟨_, e, planned, h⟩ := bind_ok h
      exact w.trans (w.planTool bound planned) (ih h)

end Walks

theorem serves_walk (s : Setting) :
    Walk s fun ts d d' => Serves s d d' (ts.filterMap (·.direction?)) where
  refl d := (Quiet.refl d).serves
  trans h h' := by
    rw [List.filterMap_append]
    exact h.trans h'
  unbound _ := (quiet_noted _ _).serves
  payload := planPayload_serves
  result := planResult_serves
  projection := planServerData_serves

theorem planTools_serves {tools : List Tool} {u : Unit}
    (h : planTools s tools d = (.ok u, d')) : Serves s d d' (directions tools) := by
  rw [← turns_directions]
  exact (serves_walk s).planTools h

/-- The last record of a run that went through the tools. -/
def closing (toolset : String) : Option Plan → LogRecord
  | none => .nothingToGenerate toolset
  | some p => .planned toolset p.functions.length p.helpers.length

theorem finish_functions {specsDir : String} {service : Service} {p? : Option Plan}
    (h : finish s specsDir service d = (.ok p?, d')) :
    (p?.map (·.functions)).getD [] = d.functions ∧ d'.requests = d.requests ∧
      d'.log = d.log ++ [closing s.toolset.name p?] := by
  unfold finish at h
  obtain ⟨_, e, got, h⟩ := bind_ok h
  cases got
  split at h
  · rename_i nothing
    obtain ⟨_, e, told, h⟩ := bind_ok h
    cases h
    rw [note_noted told]
    exact ⟨(List.isEmpty_iff.mp nothing).symm, rfl, rfl⟩
  · cases assembled : ImportBlock.assemble ⟨service.importPath s.root, some s.servicePackage⟩
      d.imports with
    | error e =>
      rw [assembled] at h
      exact absurd h not_fail
    | ok imports =>
      rw [assembled] at h
      obtain ⟨_, e, told, h⟩ := bind_ok h
      cases h
      rw [note_noted told]
      exact ⟨rfl, rfl, rfl⟩

end Runs

/-- How the calls of a run that succeeded stand to the conversions of the toolset and to the plan.
-/
structure Served (s : Setting) (run : PlanRun) (p? : Option Plan) (calls : List Call) : Prop where
  requests : run.requests = calls.map (·.request s)
  answers : ∀ earlier k later, calls = earlier ++ k :: later →
    k.answer = s.engine (earlier.map (·.request s)) (k.request s)
  accepted : ∀ k ∈ calls, k.direction.ends? s = some (k.source, k.target) ∧
    s.catalog.checkCompatible k.source.attr k.target.attr k.source.label k.target.label = .ok ()
  order : calls.map (·.direction) = (directions s.toolset.tools).filter (·.asks s)
  projections : (calls.map (·.direction)).filter (·.isProjection) =
    (directions s.toolset.tools).filter (·.isProjection)
  functions : (p?.map (·.functions)).getD [] = calls.filterMap (·.function? s)
  kept : ∀ k ∈ calls, k.direction.isProjection = true →
    ∃ output, k.answer = .ok output ∧ Text.isBlank output.body = false
  planned : ∀ tool ∈ s.toolset.tools, tool.method.isSome = true → tool.serverData ≠ [] →
    p?.isSome = true

section Toolset

variable {s : Setting} {d : Draft} {calls : List Call} {k : Call}

theorem projection_mem {tools : List Tool} {tool : Tool} {method : MethodBinding} {p : Projection}
    (mem : tool ∈ tools) (bound : tool.method = some method) (declared : p ∈ tool.serverData) :
    .projection tool method p ∈ directions tools := by
  refine List.mem_flatMap.mpr ⟨tool, mem, ?_⟩
  unfold toolDirections
  rw [bound]
  exact List.mem_cons_of_mem _ (List.mem_cons_of_mem _ (List.mem_map_of_mem declared))

theorem content_of_function (emitted : (k.function? s).isSome = true) :
    ∃ output, k.answer = .ok output ∧ Text.isBlank output.body = false := by
  obtain ⟨f, made⟩ := Option.isSome_iff_exists.mp emitted
  obtain ⟨output, content, -⟩ := Option.map_eq_some_iff.mp made
  unfold content? at content
  split at content
  · cases content
  · rename_i answered answer
    split at content
    · cases content
    · rename_i body
      exact ⟨answered, answer, Bool.eq_false_iff.mpr body⟩

theorem Accounts.projections_asked
    (h : Accounts s {} d (directions s.toolset.tools) calls) :
    (calls.map (·.direction)).filter (·.isProjection) =
      (directions s.toolset.tools).filter (·.isProjection) := by
  rw [h.asked, List.filter_filter]
  refine List.filter_congr fun x mem => ?_
  cases projection : x.isProjection with
  | false => rw [Bool.false_and]
  | true => rw [h.projections x mem projection, Bool.and_true]

theorem Accounts.function_of_projection
    (h : Accounts s {} d (directions s.toolset.tools) calls) {x : Direction}
    (mem : x ∈ directions s.toolset.tools) (projection : x.isProjection = true) :
    calls.filterMap (·.function? s) ≠ [] := by
  have asked : x ∈ calls.map (·.direction) := by
    rw [h.asked]
    exact List.mem_filter.mpr ⟨mem, h.projections x mem projection⟩
  obtain ⟨k, called, rfl⟩ := List.mem_map.mp asked
  obtain ⟨f, made⟩ := Option.isSome_iff_exists.mp (h.kept k called projection)
  exact List.ne_nil_of_mem (List.mem_filterMap.mpr ⟨k, called, made⟩)

end Toolset

section Planned

variable {c : Catalog} {engine : Engine} {root : String} {toolset : Toolset} {index : SpecsIndex}
  {p? : Option Plan}

/-- How a run can end well: at once, with a record that tells what the toolset lacks, or once it has
gone through the tools. -/
inductive PlanCourse (c : Catalog) (engine : Engine) (root : String) (toolset : Toolset)
    (index : SpecsIndex) : Option Plan → Draft → Prop
  | noSpecsDir (missing : toolset.specsDir.filter (fun dir => !dir.isEmpty) = none) :
      PlanCourse c engine root toolset index none (noted {} (.noSpecsDir toolset.name))
  | noSourceService {specsDir : String}
      (directory : toolset.specsDir.filter (fun dir => !dir.isEmpty) = some specsDir)
      (missing : toolset.sourceService = none) :
      PlanCourse c engine root toolset index none (noted {} (.noSourceService toolset.name))
  | noTools {specsDir : String} {service : Service}
      (directory : toolset.specsDir.filter (fun dir => !dir.isEmpty) = some specsDir)
      (source : toolset.sourceService = some service) (missing : toolset.tools = []) :
      PlanCourse c engine root toolset index none (noted {} (.noTools toolset.name))
  | tools {specsDir : String} {service : Service} {e d : Draft} {p? : Option Plan}
      (directory : toolset.specsDir.filter (fun dir => !dir.isEmpty) = some specsDir)
      (source : toolset.sourceService = some service) (nonempty : toolset.tools ≠ [])
      (went : planTools ⟨c, engine, root, toolset, service.package, index⟩ toolset.tools {} =
        (.ok (), e))
      (finished : finish ⟨c, engine, root, toolset, service.package, index⟩ specsDir service e =
        (.ok p?, d)) :
      PlanCourse c engine root toolset index p? d

theorem planCourse (planned : (planWith c engine root toolset index).outcome = .ok p?) :
    ∃ d, PlanCourse c engine root toolset index p? d ∧
      (planWith c engine root toolset index).requests = d.requests ∧
      (planWith c engine root toolset index).log = d.log := by
  have run : ∃ d, plan c engine root toolset index {} = (.ok p?, d) ∧
      (planWith c engine root toolset index).requests = d.requests ∧
      (planWith c engine root toolset index).log = d.log := ⟨_, Prod.ext planned rfl, rfl, rfl⟩
  obtain ⟨d, run, same⟩ := run
  refine ⟨d, ?_, same⟩
  unfold plan at run
  cases directory : toolset.specsDir.filter fun dir => !dir.isEmpty with
  | none =>
    rw [directory] at run
    obtain ⟨_, e, told, run⟩ := bind_ok run
    cases run
    rw [note_noted told]
    exact .noSpecsDir directory
  | some specsDir =>
    rw [directory] at run
    dsimp only at run
    cases source : toolset.sourceService with
    | none =>
      rw [source] at run
      obtain ⟨_, e, told, run⟩ := bind_ok run
      cases run
      rw [note_noted told]
      exact .noSourceService directory source
    | some service =>
      rw [source] at run
      dsimp only at run
      split at run
      · rename_i nothing
        obtain ⟨_, e, told, run⟩ := bind_ok run
        cases run
        rw [note_noted told]
        exact .noTools directory source (List.isEmpty_iff.mp nothing)
      · rename_i nonempty
        obtain ⟨_, e, went, finished⟩ := bind_ok run
        exact .tools directory source (mt List.isEmpty_iff.mpr nonempty) went finished

theorem planned_cases (planned : (planWith c engine root toolset index).outcome = .ok p?) :
    (p? = none ∧ (toolset.specsDir.filter (fun dir => !dir.isEmpty) = none ∨
      toolset.sourceService = none ∨ toolset.tools = [])) ∨
    ∃ specsDir service, ∃ e d : Draft, toolset.sourceService = some service ∧
      planTools ⟨c, engine, root, toolset, service.package, index⟩ toolset.tools {} = (.ok (), e) ∧
      finish ⟨c, engine, root, toolset, service.package, index⟩ specsDir service e = (.ok p?, d) ∧
      (planWith c engine root toolset index).requests = d.requests := by
  obtain ⟨d, course, requests, -⟩ := planCourse planned
  cases course with
  | noSpecsDir missing => exact .inl ⟨rfl, .inl missing⟩
  | noSourceService _ missing => exact .inl ⟨rfl, .inr (.inl missing)⟩
  | noTools _ _ missing => exact .inl ⟨rfl, .inr (.inr missing)⟩
  | tools _ source _ went finished => exact .inr ⟨_, _, _, d, source, went, finished, requests⟩

/-- Whatever the engine answers, no projection is dropped and nothing is asked out of turn. -/
theorem projections_served {service : Service} {specsDir : String}
    (directory : toolset.specsDir = some specsDir) (named : specsDir ≠ "")
    (source : toolset.sourceService = some service) (tools : toolset.tools ≠ [])
    (planned : (planWith c engine root toolset index).outcome = .ok p?) :
    ∃ calls, Served ⟨c, engine, root, toolset, service.package, index⟩
      (planWith c engine root toolset index) p? calls := by
  rcases planned_cases planned with ⟨-, unplaced | unplaced | idle⟩ | ⟨_, _, e, d, given, went,
    finished, requests⟩
  · simp [directory, named] at unplaced
  · simp [source] at unplaced
  · exact absurd idle tools
  obtain rfl := Option.some.inj (source.symm.trans given)
  obtain ⟨calls, account⟩ := planTools_serves went
  obtain ⟨functions, requests', -⟩ := finish_functions finished
  have emitted : (p?.map (·.functions)).getD [] =
      calls.filterMap (·.function? ⟨c, engine, root, toolset, service.package, index⟩) :=
    functions.trans account.functions
  refine ⟨calls, requests.trans (requests'.trans account.requests), account.inTurn, account.ends,
    account.asked, account.projections_asked, emitted, ?_, ?_⟩
  · intro k mem projection
    exact content_of_function (account.kept k mem projection)
  · intro tool mem backed nonempty
    obtain ⟨method, bound⟩ := Option.isSome_iff_exists.mp backed
    obtain ⟨p, declared⟩ := List.exists_mem_of_ne_nil _ nonempty
    have any := account.function_of_projection (projection_mem mem bound declared) rfl
    cases p? with
    | none => exact absurd emitted.symm any
    | some _ => rfl

end Planned

/-! An engine that answers by how often it was asked, and a tool with the same projection twice. -/
namespace Wavering

def text : Attribute := .ofType (.primitive .string)

def record (field : String) : Attribute := .ofType (.object [⟨field, text⟩])

def method : MethodBinding :=
  { name := "Read", payload := record "id", result := record "title",
    payloadRef := some "*alpha.ReadPayload", resultRef := some "*alpha.ReadResult" }

def label : Projection := { kind := "label", field := "title" }

def tool : Tool :=
  { name := "read", qualifiedName := "alpha.notes.read", args := record "id",
    result := record "title", method := some method, serverData := [label, label] }

def alpha : Service := ⟨"alpha", "alpha"⟩

def toolset : Toolset :=
  { name := "alpha.notes", specsDir := some "gen/notes", specsPackage := "notes",
    sourceService := some alpha, tools := [tool] }

def engine : Engine := fun earlier _ =>
  match earlier.length with
  | 0 => .ok { body := " " }
  | 1 => .error (.failed (.unsupported "v" .emptyAttribute))
  | asked => .ok { body := "res := " ++ toString asked }

def index : SpecsIndex := SpecsIndex.ofToolset ⟨[]⟩ toolset

def run : PlanRun := planWith ⟨[]⟩ engine "example.com/gen" toolset index

def bodies? : Option (List String) :=
  run.outcome.toOption.join.map fun p => p.functions.map (·.body)

theorem labels_served :
    ∃ p, run.outcome = .ok (some p) ∧ p.functions.map (·.body) = ["res := 2", "res := 3"] ∧
      ∃ calls, calls.length = 4 ∧
        Served ⟨⟨[]⟩, engine, "example.com/gen", toolset, alpha.package, index⟩ run (some p)
          calls := by
  have summary : bodies? = some ["res := 2", "res := 3"] := by decide +kernel
  obtain ⟨p, planned, bodies⟩ : ∃ p, run.outcome = .ok (some p) ∧ p.functions.map (·.body) = _ :=
    planned_of_summary summary
  have directory : toolset.specsDir = some "gen/notes" := rfl
  obtain ⟨calls, served⟩ := projections_served directory (by decide) rfl (by decide) planned
  refine ⟨p, planned, bodies, calls, ?_, served⟩
  have requests : run.requests = calls.map _ := served.requests
  have asked : run.requests.length = 4 := by decide +kernel
  rwa [requests, List.length_map] at asked

end Wavering

end Toolbridge.Planner
