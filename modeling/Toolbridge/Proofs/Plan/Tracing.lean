import Toolbridge.Proofs.Plan.Answers

set_option autoImplicit false

namespace Toolbridge

namespace LogRecord

def tool? : LogRecord → Option String
  | .notMethodBacked tool | .incompatible tool _ _ | .notConverted tool _ _ | .emptyBody tool _ =>
    some tool
  | _ => none

def function? : LogRecord → Option String
  | .incompatible _ function _ | .notConverted _ function _ | .emptyBody _ function => some function
  | _ => none

def toolset? : LogRecord → Option String
  | .noSpecsDir toolset | .noSourceService toolset | .noTools toolset
  | .nothingToGenerate toolset | .planned toolset _ _ => some toolset
  | _ => none

end LogRecord

namespace Planner

namespace Direction

def tool : Direction → Tool
  | .payload tool _ | .result tool _ | .projection tool _ _ => tool

def functionName : Direction → String
  | .payload tool _ => "Init" ++ tool.goName ++ "MethodPayload"
  | .result tool _ => "Init" ++ tool.goName ++ "ToolResult"
  | .projection tool _ p => "Init" ++ tool.goName ++ p.goKind ++ "ServerData"

theorem function_name (s : Setting) (x : Direction) (source target : Attribute) (body : String) :
    (x.function s source target body).name = x.functionName := by
  cases x <;> rfl

end Direction

namespace Turn

def tool : Turn → Tool
  | .unbound tool => tool
  | .conversion x => x.tool

/-- The function that a turn is about. A tool without a method has none. -/
def functionName? : Turn → Option String
  | .unbound _ => none
  | .conversion x => some x.functionName

/-- There is nothing to convert, or nothing to convert it into. -/
def EndMissing (s : Setting) : Turn → Prop
  | .unbound _ => False
  | .conversion x => x.ends? s = none

end Turn

/-- What became of a turn: the function that was planned and the record that was left. -/
structure Passage where
  turn : Turn
  function? : Option PlannedFunction := none
  record? : Option LogRecord := none

/-- The ways in which a turn can go in a run that succeeds. The engine may have been asked for
others before. -/
inductive Passed (s : Setting) : Passage → Prop
  | unbound {tool : Tool} (free : tool.method = none) :
      Passed s { turn := .unbound tool, record? := some (.notMethodBacked tool.qualifiedName) }
  | planned {x : Direction} {source target : End} {earlier : List ConversionRequest}
      {output : ConversionOutput} (ends : x.ends? s = some (source, target))
      (accepted : Accepted s source target)
      (answered : s.engine earlier
        (conversionRequest source target (x.sourceVar s source.attr)) = .ok output)
      (full : Text.isBlank output.body = false) :
      Passed s
        { turn := .conversion x
          function? := some (x.function s source.attr target.attr output.body) }
  | endMissing {x : Direction} (optional : x.isProjection = false) (missing : x.ends? s = none) :
      Passed s { turn := .conversion x }
  | incompatible {x : Direction} {source target : End} {e : Incompatibility}
      (optional : x.isProjection = false) (ends : x.ends? s = some (source, target))
      (parted : s.catalog.checkCompatible source.attr target.attr source.label target.label =
        .error (.failed e)) :
      Passed s
        { turn := .conversion x
          record? := some (.incompatible x.tool.qualifiedName x.functionName e) }
  | notConverted {x : Direction} {source target : End} {earlier : List ConversionRequest}
      {e : ConversionError} (optional : x.isProjection = false)
      (ends : x.ends? s = some (source, target)) (accepted : Accepted s source target)
      (failed : s.engine earlier
        (conversionRequest source target (x.sourceVar s source.attr)) = .error (.failed e)) :
      Passed s
        { turn := .conversion x
          record? := some (.notConverted x.tool.qualifiedName x.functionName e) }
  | emptyBody {x : Direction} {source target : End} {earlier : List ConversionRequest}
      {output : ConversionOutput} (optional : x.isProjection = false)
      (ends : x.ends? s = some (source, target)) (accepted : Accepted s source target)
      (answered : s.engine earlier
        (conversionRequest source target (x.sourceVar s source.attr)) = .ok output)
      (blank : Text.isBlank output.body = true) :
      Passed s
        { turn := .conversion x
          record? := some (.emptyBody x.tool.qualifiedName x.functionName) }

section Passages

variable {s : Setting} {p : Passage}

/-- A turn that has no function and no record is one with an end missing, and these have none. -/
theorem Passed.untold_iff (h : Passed s p) (skipped : p.function? = none) :
    p.record? = none ↔ p.turn.EndMissing s := by
  cases h with
  | unbound => exact ⟨nofun, False.elim⟩
  | planned => cases skipped
  | endMissing _ missing => exact ⟨fun _ => missing, fun _ => rfl⟩
  | incompatible _ ends | notConverted _ ends | emptyBody _ ends =>
    exact ⟨nofun, fun missing => nomatch ends.symm.trans missing⟩

theorem Passed.function_name (h : Passed s p) {f : PlannedFunction} (made : p.function? = some f) :
    p.turn.functionName? = some f.name := by
  cases h with
  | @planned x source target _ output =>
    cases made
    exact congrArg some (x.function_name s source.attr target.attr output.body).symm
  | _ => cases made

theorem Passed.names (h : Passed s p) {r : LogRecord} (told : p.record? = some r) :
    r.tool? = some p.turn.tool.qualifiedName ∧ r.function? = p.turn.functionName? := by
  cases h with
  | planned => cases told
  | endMissing => cases told
  | unbound | incompatible | notConverted | emptyBody =>
    cases told
    exact ⟨rfl, rfl⟩

end Passages

/-- What a planner planned and noted between two drafts, turn by turn. -/
structure Recounts (s : Setting) (d d' : Draft) (ts : List Turn) (ps : List Passage) : Prop where
  turns : ps.map (·.turn) = ts
  passed : ∀ p ∈ ps, Passed s p
  functions : d'.functions = d.functions ++ ps.filterMap (·.function?)
  log : d'.log = d.log ++ ps.filterMap (·.record?)

def Tells (s : Setting) (d d' : Draft) (ts : List Turn) : Prop := ∃ ps, Recounts s d d' ts ps

section Runs

variable {s : Setting} {d d' d'' : Draft} {ts us : List Turn} {x : Direction} {tool : Tool}
  {method : MethodBinding} {p : Projection} {u : Unit}

theorem Tells.refl (s : Setting) (d : Draft) : Tells s d d [] :=
  ⟨[], rfl, fun _ mem => absurd mem List.not_mem_nil, (List.append_nil _).symm,
    (List.append_nil _).symm⟩

theorem Tells.trans (h : Tells s d d' ts) (h' : Tells s d' d'' us) : Tells s d d'' (ts ++ us) := by
  obtain ⟨ps, h⟩ := h
  obtain ⟨qs, h'⟩ := h'
  refine ⟨ps ++ qs, ?_, ?_, ?_, ?_⟩
  · rw [List.map_append, h.turns, h'.turns]
  · exact fun p mem => (List.mem_append.mp mem).elim (h.passed p) (h'.passed p)
  · rw [h'.functions, h.functions, List.filterMap_append, List.append_assoc]
  · rw [h'.log, h.log, List.filterMap_append, List.append_assoc]

theorem tells_one {p : Passage} (passed : Passed s p)
    (functions : d'.functions = d.functions ++ p.function?.toList)
    (log : d'.log = d.log ++ p.record?.toList) : Tells s d d' [p.turn] := by
  refine ⟨[p], rfl, ?_, ?_, ?_⟩
  · intro q mem
    obtain rfl := List.mem_singleton.mp mem
    exact passed
  · rw [functions, List.filterMap_cons]
    cases p.function? <;> rfl
  · rw [log, List.filterMap_cons]
    cases p.record? <;> rfl

theorem tells_noted {t : Turn} {r : LogRecord} (passed : Passed s { turn := t, record? := some r })
    (functions : d'.functions = d.functions) (log : d'.log = d.log ++ [r]) : Tells s d d' [t] :=
  tells_one passed (functions.trans (List.append_nil _).symm) log

theorem tells_silent {t : Turn} (passed : Passed s { turn := t }) : Tells s d d [t] :=
  tells_one passed (List.append_nil _).symm (List.append_nil _).symm

theorem converted_tells {source target : End} (optional : x.isProjection = false)
    (plain : x.sourceVar s source.attr = "v") (ends : x.ends? s = some (source, target))
    (h : (optionalConversion s x.tool x.functionName source target >>=
      addConverted s (fun body => x.function s source.attr target.attr body) source.attr
        target.attr) d = (.ok u, d')) : Tells s d d' [.conversion x] := by
  obtain ⟨kept, e, made, rest⟩ := bind_ok h
  cases optionalConversion_course made with
  | incompatible parted =>
    cases rest
    exact tells_noted (.incompatible optional ends parted) rfl rfl
  | notConverted accepted failed =>
    cases rest
    rw [← plain] at failed
    exact tells_noted (.notConverted optional ends accepted failed) rfl rfl
  | emptyBody accepted answered blank =>
    cases rest
    rw [← plain] at answered
    exact tells_noted (.emptyBody optional ends accepted answered blank) rfl rfl
  | converted accepted answered full =>
    obtain ⟨functions, -, log⟩ := addFunction_functions rest
    rw [← plain] at answered
    exact tells_one (.planned ends accepted answered full) functions
      (log.trans (List.append_nil _).symm)

theorem planPayload_tells
    (h : planPayload s tool method (method.payloadRef.getD "") d = (.ok u, d')) :
    Tells s d d' [.conversion (.payload tool method)] := by
  rcases optional_cases (x := .payload tool method) h rfl with ⟨missing, rfl⟩ | ⟨_, ends, converted⟩
  · exact tells_silent (.endMissing rfl missing)
  · exact converted_tells rfl rfl ends converted

theorem planResult_tells
    (h : planResult s tool method (method.resultRef.getD "") d = (.ok u, d')) :
    Tells s d d' [.conversion (.result tool method)] := by
  rcases optional_cases (x := .result tool method) h rfl with ⟨missing, rfl⟩ | ⟨_, ends, converted⟩
  · exact tells_silent (.endMissing rfl missing)
  · exact converted_tells rfl rfl ends converted

theorem planServerData_tells (h : planServerData s tool method p d = (.ok u, d')) :
    Tells s d d' [.conversion (.projection tool method p)] := by
  rw [planServerData_eq] at h
  obtain ⟨source, e, projected, h⟩ := bind_ok h
  obtain ⟨target, e', declared, h⟩ := bind_ok h
  obtain rfl := projectedField_keeps projected
  obtain rfl := serverDataType_keeps declared
  obtain ⟨_, output, rfl, accepted, answered, full, functions, -, log⟩ := serverDataStep_course h
  exact tells_one (.planned (projection_ends projected declared) accepted answered full) functions
    (log.trans (List.append_nil _).symm)

theorem tells_walk (s : Setting) : Walk s fun ts d d' => Tells s d d' ts where
  refl := Tells.refl s
  trans := Tells.trans
  unbound free := tells_noted (.unbound free) rfl rfl
  payload := planPayload_tells
  result := planResult_tells
  projection := planServerData_tells

end Runs

inductive Lacks (toolset : Toolset) : LogRecord → Prop
  | specsDir (missing : toolset.specsDir.filter (fun dir => !dir.isEmpty) = none) :
      Lacks toolset (.noSpecsDir toolset.name)
  | sourceService (missing : toolset.sourceService = none) :
      Lacks toolset (.noSourceService toolset.name)
  | tools (missing : toolset.tools = []) : Lacks toolset (.noTools toolset.name)

theorem Lacks.names {toolset : Toolset} {r : LogRecord} (h : Lacks toolset r) :
    r.toolset? = some toolset.name := by
  cases h <;> rfl

/-- How the log of a run through the tools stands to the functions of its plan: turn by turn, and
at the end how many there are. A turn without a function left no record just if an end is missing.
-/
structure Traced (s : Setting) (run : PlanRun) (p? : Option Plan) (ps : List Passage) : Prop where
  turns : ps.map (·.turn) = turns s.toolset.tools
  passed : ∀ p ∈ ps, Passed s p
  functions : (p?.map (·.functions)).getD [] = ps.filterMap (·.function?)
  named : ∀ p ∈ ps, ∀ f, p.function? = some f → p.turn.functionName? = some f.name
  log : run.log = ps.filterMap (·.record?) ++ [closing s.toolset.name p?]
  told : ∀ p ∈ ps, ∀ r, p.record? = some r →
    r ∈ run.log ∧ r.tool? = some p.turn.tool.qualifiedName ∧ r.function? = p.turn.functionName?
  untold : ∀ p ∈ ps, p.function? = none → (p.record? = none ↔ p.turn.EndMissing s)

section Planned

variable {c : Catalog} {engine : Engine} {root : String} {toolset : Toolset} {index : SpecsIndex}
  {p? : Option Plan}

theorem Recounts.traced {s : Setting} {run : PlanRun} {d : Draft} {ps : List Passage}
    (h : Recounts s {} d (Planner.turns s.toolset.tools) ps)
    (functions : (p?.map (·.functions)).getD [] = d.functions)
    (log : run.log = d.log ++ [closing s.toolset.name p?]) : Traced s run p? ps := by
  have records : d.log = ps.filterMap (·.record?) := h.log
  rw [records] at log
  refine ⟨h.turns, h.passed, functions.trans h.functions, ?_, log, ?_, ?_⟩
  · exact fun p mem f made => (h.passed p mem).function_name made
  · intro p mem r told
    refine ⟨?_, (h.passed p mem).names told⟩
    rw [log]
    exact List.mem_append_left _ (List.mem_filterMap.mpr ⟨p, mem, told⟩)
  · exact fun p mem => (h.passed p mem).untold_iff

/-- A run that succeeds tells what its toolset lacks, or accounts for every tool without a method
and for every conversion; it says nothing only of payloads and results with an end missing. -/
theorem skips_traced (planned : (planWith c engine root toolset index).outcome = .ok p?) :
    (p? = none ∧ ∃ r, (planWith c engine root toolset index).log = [r] ∧ Lacks toolset r ∧
      r.toolset? = some toolset.name) ∨
    ∃ service ps, toolset.sourceService = some service ∧
      Traced ⟨c, engine, root, toolset, service.package, index⟩
        (planWith c engine root toolset index) p? ps := by
  obtain ⟨d, course, -, log⟩ := planCourse planned
  cases course with
  | noSpecsDir missing =>
    have lacks : Lacks toolset _ := .specsDir missing
    exact .inl ⟨rfl, _, log, lacks, lacks.names⟩
  | noSourceService _ missing =>
    have lacks : Lacks toolset _ := .sourceService missing
    exact .inl ⟨rfl, _, log, lacks, lacks.names⟩
  | noTools _ _ missing =>
    have lacks : Lacks toolset _ := .tools missing
    exact .inl ⟨rfl, _, log, lacks, lacks.names⟩
  | tools _ source _ went finished =>
    obtain ⟨ps, recounts⟩ := (tells_walk _).planTools went
    obtain ⟨functions, -, closed⟩ := finish_functions finished
    exact .inr ⟨_, ps, source, recounts.traced functions (log.trans closed)⟩

end Planned

/-! Tools that go without a function in three ways: `ping` has no payload to give to its method,
`help` has no method, and the argument of `find` is not the one that its method takes. -/
namespace Untold

def text : Attribute := .ofType (.primitive .string)

def record (field : String) : Attribute := .ofType (.object [⟨field, text⟩])

def ping : Tool :=
  { name := "ping", qualifiedName := "alpha.ops.ping", args := text, result := text,
    method := some
      { name := "Ping", payload := {}, result := text, payloadRef := some "string",
        resultRef := some "string" } }

def help : Tool :=
  { name := "help", qualifiedName := "alpha.ops.help", args := text, result := text }

def find : Tool :=
  { name := "find", qualifiedName := "alpha.ops.find", args := record "id", result := text,
    method := some
      { name := "Find", payload := record "key", result := text,
        payloadRef := some "*alpha.FindPayload", resultRef := some "string" } }

def toolset (tools : List Tool) : Toolset :=
  { name := "alpha.ops", specsDir := some "gen/ops", specsPackage := "ops",
    sourceService := some ⟨"alpha", "alpha"⟩, tools }

def run (tools : List Tool) : PlanRun := planToolset ⟨[]⟩ "example.com/gen" (toolset tools)

def functionNames? (tools : List Tool) : Option (List String) :=
  (run tools).outcome.toOption.join.map fun p => p.functions.map (·.name)

theorem help_and_find_told :
    ∃ p ps, (run [ping, help, find]).outcome = .ok (some p) ∧
      Traced ⟨⟨[]⟩, Conversion.engine ⟨[]⟩, "example.com/gen", toolset [ping, help, find], "alpha",
        SpecsIndex.ofToolset ⟨[]⟩ (toolset [ping, help, find])⟩ (run [ping, help, find]) (some p)
        ps ∧
      (run [ping, help, find]).log.map (·.tool?) =
        [some "alpha.ops.help", some "alpha.ops.find", none] := by
  have summary : functionNames? [ping, help, find] =
      some ["InitPingToolResult", "InitFindToolResult"] := by decide +kernel
  obtain ⟨p, planned, -⟩ := planned_of_summary summary
  rcases skips_traced planned with ⟨none, -⟩ | ⟨service, ps, source, traced⟩
  · cases none
  · obtain rfl : _ = service := Option.some.inj source
    exact ⟨p, ps, planned, traced, by decide +kernel⟩

/-- No record names the tool whose payload is left out. -/
theorem missing_payload_untold :
    (∃ p, (run [ping]).outcome = .ok (some p) ∧
      p.functions.map (·.name) = ["InitPingToolResult"]) ∧
      ping.args.isEmpty = false ∧ ping.method.isSome = true ∧
      ∀ r ∈ (run [ping]).log, r.tool? = none := by
  have summary : functionNames? [ping] = some ["InitPingToolResult"] := by decide +kernel
  exact ⟨planned_of_summary summary, rfl, rfl, by decide +kernel⟩

end Untold

end Planner

end Toolbridge
