import Toolbridge.Proofs.Conversion.HelperNames
import Toolbridge.Proofs.Plan.Answers
import Toolbridge.Proofs.Plan.Helpers
import Mathlib.Data.List.Nodup
import Mathlib.Data.List.Perm.Basic

set_option autoImplicit false

namespace Toolbridge

/-- The functions that a file declares, with the helpers. -/
def Plan.declaredNames (p : Plan) : List String :=
  p.functions.map (·.name) ++ p.helpers.map (·.name)

namespace Planner

/-- A function is named after something between `Init` and what it makes. -/
def functionName (suffix name : String) : String := "Init" ++ name ++ suffix

/-- The Go names of the tools with a method for which the conversion can be made. -/
def goNamesWith (made : Tool → MethodBinding → Option Converted) (tools : List Tool) :
    List String :=
  (tools.filter fun tool => (tool.method.bind (made tool)).isSome).map (·.goName)

def toolProjections (tool : Tool) : List Projection :=
  if tool.method.isSome then tool.serverData else []

def projectionNames (tools : List Tool) : List String :=
  tools.flatMap fun tool => (toolProjections tool).map fun p => tool.goName ++ p.goKind

/-- No two functions of one sort are named after the same. -/
structure NamesApart (s : Setting) (tools : List Tool) : Prop where
  payloads : (goNamesWith (payloadConversion? s) tools).Nodup
  results : (goNamesWith (resultConversion? s) tools).Nodup
  projections : (projectionNames tools).Nodup

section Names

variable {s : Setting} {tool : Tool} {method : MethodBinding} {p : Projection} {k : Converted}
  {tools : List Tool}

theorem functionName_injective (suffix : String) : (functionName suffix).Injective := by
  intro a b same
  unfold functionName at same
  exact (String.append_right_inj _).mp ((String.append_left_inj _).mp same)

theorem append_ne_of_last {a b x y : String} {c d : Char} (left : x.toList.getLast? = some c)
    (right : y.toList.getLast? = some d) (apart : c ≠ d) : a ++ x ≠ b ++ y := by
  intro same
  have last := congrArg (fun text => text.toList.getLast?) same
  simp only [String.toList_append, List.getLast?_append, left, right, Option.some_or,
    Option.some.injEq] at last
  exact apart last

theorem payloadConversion?_name (made : payloadConversion? s tool method = some k) :
    k.function.name = functionName "MethodPayload" tool.goName := by
  obtain ⟨own, output, -, -, rfl⟩ := payloadConversion?_eq_some made
  rfl

theorem resultConversion?_name (made : resultConversion? s tool method = some k) :
    k.function.name = functionName "ToolResult" tool.goName := by
  obtain ⟨own, output, -, -, rfl⟩ := resultConversion?_eq_some made
  rfl

theorem serverDataConversion?_name (made : serverDataConversion? s tool method p = some k) :
    k.function.name = functionName "ServerData" (tool.goName ++ p.goKind) := by
  obtain ⟨source, target, output, -, -, -, -, rfl⟩ := serverDataConversion?_eq_some made
  simp only [projectionFunction, functionName, String.append_assoc]

def toolConversion (made : Tool → MethodBinding → Option Converted) (tool : Tool) :
    List Converted :=
  (tool.method.bind (made tool)).toList

def toolServerData (s : Setting) (tool : Tool) : List Converted :=
  match tool.method with
  | none => []
  | some method => tool.serverData.filterMap (serverDataConversion? s tool method)

theorem toolConversions_eq (tool : Tool) : toolConversions s tool =
    (toolConversion (payloadConversion? s) tool ++ toolConversion (resultConversion? s) tool) ++
      toolServerData s tool := by
  unfold toolConversions toolConversion toolServerData
  cases tool.method <;> rfl

theorem conversions_perm (s : Setting) (tools : List Tool) : (conversions s tools).Perm
    ((tools.flatMap (toolConversion (payloadConversion? s)) ++
      tools.flatMap (toolConversion (resultConversion? s))) ++
        tools.flatMap (toolServerData s)) := by
  unfold conversions
  rw [funext toolConversions_eq]
  refine ((List.flatMap_append_perm tools _ _).symm).trans ?_
  exact ((List.flatMap_append_perm tools _ _).symm).append_right _

theorem names_toolConversion {made : Tool → MethodBinding → Option Converted} {suffix : String}
    (named : ∀ tool method k, made tool method = some k →
      k.function.name = functionName suffix tool.goName) :
    (tools.flatMap (toolConversion made)).map (·.function.name) =
      (goNamesWith made tools).map (functionName suffix) := by
  induction tools with
  | nil => rfl
  | cons tool rest ih =>
    unfold goNamesWith toolConversion at ih ⊢
    rw [List.flatMap_cons, List.map_append, ih]
    cases converted : tool.method.bind (made tool) with
    | none => simp [converted]
    | some k =>
      obtain ⟨method, -, here⟩ := Option.bind_eq_some_iff.mp converted
      simp [converted, named tool method k here]

theorem names_serverData {projections : List Projection}
    (all : ∀ p ∈ projections, (serverDataConversion? s tool method p).isSome = true) :
    (projections.filterMap (serverDataConversion? s tool method)).map (·.function.name) =
      (projections.map fun p => tool.goName ++ p.goKind).map (functionName "ServerData") := by
  induction projections with
  | nil => rfl
  | cons p rest ih =>
    obtain ⟨k, made⟩ := Option.isSome_iff_exists.mp (all p List.mem_cons_self)
    rw [List.filterMap_cons_some made, List.map_cons, serverDataConversion?_name made,
      ih fun q later => all q (List.mem_cons_of_mem _ later)]
    rfl

theorem names_toolServerData (all : ∀ tool ∈ tools, ∀ method, tool.method = some method →
    ∀ p ∈ tool.serverData, (serverDataConversion? s tool method p).isSome = true) :
    (tools.flatMap (toolServerData s)).map (·.function.name) =
      (projectionNames tools).map (functionName "ServerData") := by
  have each : ∀ tool ∈ tools, (toolServerData s tool).map (·.function.name) =
      ((toolProjections tool).map fun p => tool.goName ++ p.goKind).map
        (functionName "ServerData") := by
    intro tool mem
    unfold toolServerData toolProjections
    cases bound : tool.method with
    | none => rfl
    | some method =>
      have converted := all tool mem method bound
      dsimp only [Option.isSome]
      rw [if_pos rfl]
      exact names_serverData converted
  unfold projectionNames
  rw [List.map_flatMap, List.map_flatMap]
  exact List.flatMap_congr each

end Names

section Files

variable {s : Setting} {tools : List Tool} {p : Plan} {service : Service}

theorem output?_of_accepted {source target : End} {sourceVar : String}
    (accepted : Accepted s source target) :
    output? s source target sourceVar =
      content? (s.engine [] (conversionRequest source target sourceVar)) := by
  unfold output?
  rw [accepted]
  rfl

theorem serverData_converted (steady : Steady s.engine) {d d' : Draft} {u : Unit}
    (went : planTools s tools d = (.ok u, d')) : ∀ tool ∈ tools, ∀ method,
      tool.method = some method → ∀ p ∈ tool.serverData,
        (serverDataConversion? s tool method p).isSome = true := by
  intro tool mem method bound p declared
  obtain ⟨calls, account⟩ := planTools_serves went
  have here := projection_mem mem bound declared
  have asked : .projection tool method p ∈ calls.map (·.direction) := by
    rw [account.asked]
    exact List.mem_filter.mpr ⟨here, account.projections _ here rfl⟩
  obtain ⟨k, called, direction⟩ := List.mem_map.mp asked
  obtain ⟨ends, accepted⟩ := account.ends k called
  obtain ⟨earlier, later, split⟩ := List.append_of_mem called
  have answer := account.inTurn earlier k later split
  have kept := account.kept k called (by rw [direction]; rfl)
  unfold Call.function? at kept
  rw [Option.isSome_map, answer, steady, Call.request, ← output?_of_accepted accepted] at kept
  rw [direction] at ends kept
  simp only [Direction.ends?] at ends
  obtain ⟨source, given, ends⟩ := Option.bind_eq_some_iff.mp ends
  obtain ⟨target, found, ends⟩ := Option.map_eq_some_iff.mp ends
  obtain ⟨origin, into⟩ := Prod.mk.inj ends
  unfold serverDataConversion?
  rw [given, Option.bind_some, found, Option.bind_some, Option.isSome_map]
  rw [← origin, ← into] at kept
  exact kept

/-- The functions of a plan have names of their own if those of each sort do. -/
theorem functions_nodup_iff (all : ∀ tool ∈ tools, ∀ method, tool.method = some method →
    ∀ p ∈ tool.serverData, (serverDataConversion? s tool method p).isSome = true) :
    ((conversions s tools).map (·.function.name)).Nodup ↔ NamesApart s tools := by
  have perm := (conversions_perm s tools).map (·.function.name)
  rw [perm.nodup_iff, List.map_append, List.map_append,
    names_toolConversion fun _ _ _ => payloadConversion?_name,
    names_toolConversion fun _ _ _ => resultConversion?_name, names_toolServerData all]
  have apart : ∀ {x y : String} {c d : Char} (left right : List String),
      x.toList.getLast? = some c → y.toList.getLast? = some d → c ≠ d →
        ∀ a ∈ left.map (functionName x), ∀ b ∈ right.map (functionName y), a ≠ b := by
    intro x y c d left right endsX endsY different a memA b memB
    obtain ⟨g, -, rfl⟩ := List.mem_map.mp memA
    obtain ⟨g', -, rfl⟩ := List.mem_map.mp memB
    exact append_ne_of_last endsX endsY different
  rw [List.nodup_append, List.nodup_append, List.nodup_map_iff (functionName_injective _),
    List.nodup_map_iff (functionName_injective _), List.nodup_map_iff (functionName_injective _)]
  constructor
  · rintro ⟨⟨payloads, results, -⟩, projections, -⟩
    exact ⟨payloads, results, projections⟩
  · rintro ⟨payloads, results, projections⟩
    refine ⟨⟨payloads, results, apart _ _ rfl rfl (by decide)⟩, projections, ?_⟩
    intro a mem b mem'
    rcases List.mem_append.mp mem with mem | mem
    · exact apart _ _ rfl rfl (by decide) a mem b mem'
    · exact apart _ _ rfl rfl (by decide) a mem b mem'

theorem function_name_initial {k : Converted} (mem : k ∈ conversions s tools) :
    ∃ rest, k.function.name = "Init" ++ rest := by
  obtain ⟨tool, -, mem⟩ := List.mem_flatMap.mp mem
  obtain ⟨method, -, payload | result | ⟨p, -, serverData⟩⟩ := mem_toolConversions mem
  · exact ⟨_, (payloadConversion?_name payload).trans (String.append_assoc ..)⟩
  · exact ⟨_, (resultConversion?_name result).trans (String.append_assoc ..)⟩
  · exact ⟨_, (serverDataConversion?_name serverData).trans (String.append_assoc ..)⟩

theorem helper_name_initial (goes : s.engine = Conversion.engine s.catalog)
    (made : MadeOf s service p) {h : Helper} (mem : h ∈ p.helpers) :
    ∃ rest, h.name = "transform" ++ rest := by
  obtain ⟨k, mem, here⟩ := made.origin mem
  obtain ⟨r, asked⟩ := asked_of_mem mem
  obtain ⟨x, y, code, -, converts, rfl⟩ := asked.place_of_helper goes here
  exact ⟨_, converts.name.trans
    ((Conversion.helperName_eq _ x y).trans (String.append_assoc ..))⟩

/-- A file declares nothing twice just if the functions of each sort are named apart. -/
theorem declared_once_iff {c : Catalog} {root : String} {toolset : Toolset} {index : SpecsIndex}
    (planned : (planWith c (Conversion.engine c) root toolset index).outcome = .ok (some p)) :
    ∃ service, toolset.sourceService = some service ∧
      (p.declaredNames.Nodup ↔
        NamesApart (goSetting c root toolset service index) toolset.tools) := by
  obtain ⟨service, given, made⟩ := planWith_ok (Conversion.engine_steady c) planned
  rcases planned_cases planned with ⟨nothing, -⟩ | ⟨_, service', e, d, given', went, -⟩
  · cases nothing
  obtain rfl := Option.some.inj (given.symm.trans given')
  refine ⟨service, given, ?_⟩
  have all := serverData_converted (s := goSetting c root toolset service index)
    (Conversion.engine_steady c) went
  rw [← functions_nodup_iff all, Plan.declaredNames, List.nodup_append, made.functions,
    List.map_map]
  constructor
  · exact fun h => h.1
  · intro functions
    refine ⟨functions, made.distinct, ?_⟩
    rintro a memA b memB rfl
    obtain ⟨k, mem, name⟩ := List.mem_map.mp memA
    obtain ⟨h, mem', name'⟩ := List.mem_map.mp memB
    obtain ⟨rest, initial⟩ := function_name_initial mem
    obtain ⟨rest', initial'⟩ := helper_name_initial rfl made mem'
    have same := initial.symm.trans (name.trans (name'.symm.trans initial'))
    have first := congrArg (fun text => text.toList.head?) same
    simp [String.toList_append] at first

end Files

end Planner

namespace Design

/-! Two tools, for documents and for notes. The names `get_doc` and `get-doc` are taken for different
ones, and the file declares their functions twice. -/
namespace Getting

def entry : TypeExpr := .object [("id", .name "string")] ["id"]

def getting (tool method type : String) : ToolDecl where
  name := tool
  args := some entry
  method := some
    { name := method,
      payload := some (.name type),
      result := some (.name type),
      payloadRef := some ("*alpha." ++ type),
      resultRef := some ("*alpha." ++ type) }
  serverData := [{ kind := "label", field := "id" }]

def document (second : String) : DesignDoc where
  service := { name := "alpha" }
  types := [
    { name := "Doc", service := some "alpha", type := entry },
    { name := "Note", service := some "alpha", type := entry }]
  toolsets := [
    { name := "alpha.ops",
      specsDir := some "gen/docs",
      tools := [getting "get_doc" "GetDoc" "Doc", getting second "GetNote" "Note"] }]

def record : Attribute :=
  { type := some (.object [⟨"id", .ofType (.primitive .string)⟩]), required := ["id"] }

def catalog : Catalog :=
  ⟨[{ name := "Doc", service := some "alpha", body := record },
    { name := "Note", service := some "alpha", body := record }]⟩

def tool (name method : String) (id : TypeId) (reference : String) : Tool :=
  { name, qualifiedName := Tool.qualify "alpha.ops" name, args := record,
    method := some
      { name := method, payload := .ofType (.user id), result := .ofType (.user id),
        payloadRef := some reference, resultRef := some reference },
    serverData := [{ kind := "label", field := "id" }] }

def alpha : Service := ⟨"alpha", "alpha"⟩

def toolset (second : String) : Toolset :=
  { name := "alpha.ops", specsDir := some "gen/docs", specsPackage := "ops",
    sourceService := some alpha,
    tools := [tool "get_doc" "GetDoc" 0 "*alpha.Doc", tool second "GetNote" 1 "*alpha.Note"] }

def design (second : String) : Design :=
  { service := alpha, catalog, toolsets := [toolset second] }

def names? (second : String) : Option (List String) :=
  (planToolset catalog "example.com/gen" (toolset second)).outcome.toOption.join.map
    (·.declaredNames)

theorem get_doc_declared_twice :
    (document "get-doc").checkNames = .ok () ∧
      (document "get-doc").design = .ok (design "get-doc") ∧
      ∃ p, (planToolset catalog "example.com/gen" (toolset "get-doc")).outcome = .ok (some p) ∧
        ¬ p.declaredNames.Nodup := by
  have summary : names? "get-doc" =
      some ["InitGetDocMethodPayload", "InitGetDocLabelServerData", "InitGetDocMethodPayload",
        "InitGetDocLabelServerData"] := by
    decide +kernel
  obtain ⟨p, planned, names⟩ :
      ∃ p, (planToolset catalog "example.com/gen" (toolset "get-doc")).outcome = .ok (some p) ∧
        p.declaredNames = _ := Planner.planned_of_summary summary
  refine ⟨rfl, rfl, p, planned, ?_⟩
  rw [names]
  decide

def setting (second : String) : Planner.Setting :=
  Planner.goSetting catalog "example.com/gen" (toolset second) alpha
    (SpecsIndex.ofToolset catalog (toolset second))

theorem notes_named_apart :
    Planner.NamesApart (setting "get_note") (toolset "get_note").tools ∧
      ∃ p, (planToolset catalog "example.com/gen" (toolset "get_note")).outcome = .ok (some p) ∧
        p.declaredNames.Nodup := by
  have summary : (names? "get_note").isSome = true := by decide +kernel
  obtain ⟨names, summary⟩ := Option.isSome_iff_exists.mp summary
  obtain ⟨p, planned, -⟩ :
      ∃ p, (planToolset catalog "example.com/gen" (toolset "get_note")).outcome = .ok (some p) ∧
        p.declaredNames = names := Planner.planned_of_summary summary
  obtain ⟨service, given, once⟩ := Planner.declared_once_iff planned
  obtain rfl := Option.some.inj given
  have apart : Planner.NamesApart (setting "get_note") (toolset "get_note").tools :=
    ⟨by decide +kernel, by decide +kernel, by decide +kernel⟩
  exact ⟨apart, p, planned, once.mpr apart⟩

end Getting

end Design
end Toolbridge
