import Toolbridge.Proofs.Conversion.Openings
import Toolbridge.Proofs.Plan.Course
import Toolbridge.Proofs.Plan.Helpers

set_option autoImplicit false

namespace Toolbridge.Planner

open Conversion (OutputBuilds)

/-- The target is a type of the tool, as it is for all conversions but those of payloads. -/
def Direction.intoOwn : Direction → Bool
  | .payload _ _ => false
  | _ => true

section Directions

variable {s : Setting} {x : Direction} {k : Converted} {source target : End}

theorem made?_eq_some (made : x.made? s = some k) :
    ∃ source target output, x.ends? s = some (source, target) ∧
      output? s source target (x.sourceVar s source.attr) = some output ∧
      k = ⟨x.function s source.attr target.attr output.body, output.helpers, source.attr,
        target.attr⟩ := by
  obtain ⟨⟨source, target⟩, ends, made⟩ := Option.bind_eq_some_iff.mp made
  obtain ⟨output, answer, made⟩ := Option.map_eq_some_iff.mp made
  exact ⟨source, target, output, ends, answer, made.symm⟩

theorem function_body (a b : Attribute) (body : String) : (x.function s a b body).body = body := by
  cases x <;> rfl

theorem function_resultType (own : x.intoOwn = true) (ends : x.ends? s = some (source, target))
    (body : String) : (x.function s source.attr target.attr body).resultType =
      target.side.typeRef s.catalog target.attr := by
  cases x with
  | payload tool method => cases own
  | result tool method =>
    simp only [Direction.ends?] at ends
    split at ends
    · cases ends
    · obtain ⟨a, -, same⟩ := Option.map_eq_some_iff.mp ends
      cases same
      rfl
  | projection tool method p =>
    obtain ⟨a, -, ends⟩ := Option.bind_eq_some_iff.mp ends
    obtain ⟨b, -, same⟩ := Option.map_eq_some_iff.mp ends
    cases same
    rfl

end Directions

/-- The function returns the target of the request that it was made on, and its body builds that. -/
structure BuildsTarget (c : Catalog) (k : Converted) (r : ConversionRequest) : Prop where
  byReference : r.byReference = true
  answer : Conversion.engine c [] r = .ok ⟨k.function.body, k.helpers⟩
  resultType : k.function.resultType = r.targetSide.typeRef c r.target
  builds : OutputBuilds c r ⟨k.function.body, k.helpers⟩

theorem outputBuilds_of_engine {c : Catalog} {earlier : List ConversionRequest}
    {r : ConversionRequest} {output : ConversionOutput} (byReference : r.byReference = true)
    (answer : Conversion.engine c earlier r = .ok output) : OutputBuilds c r output := by
  obtain ⟨code, built, rfl⟩ := Conversion.engine_eq_ok.mp answer
  exact Conversion.outputBuilds_of_build byReference built

theorem buildsTarget_of_made {s : Setting} (goes : s.engine = Conversion.engine s.catalog)
    {x : Direction} {k : Converted} (own : x.intoOwn = true) (made : x.made? s = some k) :
    ∃ source target, x.ends? s = some (source, target) ∧
      BuildsTarget s.catalog k (conversionRequest source target (x.sourceVar s source.attr)) := by
  obtain ⟨source, target, output, ends, answer, rfl⟩ := made?_eq_some made
  have answered := (answered_of_output? answer (fun body => x.function s source.attr target.attr body)
    (function_body _ _)).answer
  rw [goes] at answered
  exact ⟨source, target, ends, rfl, answered, function_resultType own ends _,
    outputBuilds_of_engine rfl answered⟩

/-- Every function of the plan that goes into a type of a tool returns what its body builds. -/
structure PlanBuilds (s : Setting) (p : Plan) : Prop where
  functions : p.functions =
    ((directions s.toolset.tools).filterMap (·.made? s)).map (·.function)
  builds : ∀ x ∈ directions s.toolset.tools, x.intoOwn = true → ∀ k, x.made? s = some k →
    ∃ source target, x.ends? s = some (source, target) ∧
      BuildsTarget s.catalog k (conversionRequest source target (x.sourceVar s source.attr))

theorem planBuilds_of_madeOf {s : Setting} {service : Service} {p : Plan}
    (goes : s.engine = Conversion.engine s.catalog) (made : MadeOf s service p) :
    PlanBuilds s p := by
  have all : conversions s s.toolset.tools =
      (directions s.toolset.tools).filterMap (·.made? s) := by
    unfold conversions directions
    rw [List.filterMap_flatMap]
    exact List.flatMap_congr fun tool _ => toolConversions_eq_made tool
  refine ⟨?_, fun x _ own k here => buildsTarget_of_made goes own here⟩
  rw [← all]
  exact made.functions

/-- What the engine answers builds what was asked for, helpers included, and in a plan the functions
into types of the tools return what their bodies build. -/
theorem bodies_build_declared_types (c : Catalog) :
    (∀ earlier r output, r.byReference = true → Conversion.engine c earlier r = .ok output →
      OutputBuilds c r output) ∧
    ∀ root toolset index p,
      (planWith c (Conversion.engine c) root toolset index).outcome = .ok (some p) →
        ∃ service, toolset.sourceService = some service ∧
          PlanBuilds (goSetting c root toolset service index) p := by
  constructor
  · intro earlier r output byReference answer
    exact outputBuilds_of_engine byReference answer
  · intro root toolset index p planned
    obtain ⟨service, given, made⟩ := planWith_ok (Conversion.engine_steady c) planned
    exact ⟨service, given, planBuilds_of_madeOf rfl made⟩

/-! The chains once more, asked for as the planner does. -/
namespace Following

open Compatibility

def request : ConversionRequest :=
  conversionRequest ⟨Twins.reference 0, "", ""⟩ ⟨Twins.reference 1, "", "alpha"⟩ "v"

theorem unstarred : Conversion.Unstarred Twins.catalog request.sourceSide request.source := by
  intro u reach
  rcases Twins.reaches rfl reach with rfl | rfl
  · decide
  · decide

def answer? : Option (List String) :=
  (Conversion.engine Twins.catalog [] request).toOption.map fun output =>
    output.helpers.map (·.body)

def back : Direction := .result tool method

def back? : Option (String × String) :=
  (back.made? setting).map fun k => (k.function.name, k.function.resultType)

def linkBody : String :=
  "if v == nil \x7b\n\treturn nil\n\x7d\nres := &alpha.Link\x7b\x7d\n" ++
    "if v.Next != nil \x7b\n\tres.Next = transformChainToAlphaLink(v.Next)\n\x7d\n"

theorem chains_built :
    (∃ output, Conversion.engine Twins.catalog [] request = .ok output ∧
      output.helpers.map (·.body) = [linkBody] ∧
      ∀ h ∈ output.helpers, ∃ x y, Conversion.HelperBuilds Twins.catalog request h x y) ∧
    ∃ p k r, run.outcome = .ok (some p) ∧ k.function ∈ p.functions ∧
      k.function.name = "InitFollowToolResult" ∧ k.function.resultType = "*FollowResult" ∧
      BuildsTarget Twins.catalog k r := by
  obtain ⟨outputs, plans⟩ := bodies_build_declared_types Twins.catalog
  have computed : answer? = some [linkBody] := by decide +kernel
  have summary : names? = some ["transformChainToAlphaLink", "transformAlphaLinkToChain"] := by
    decide +kernel
  have result : back? = some ("InitFollowToolResult", "*FollowResult") := by decide +kernel
  obtain ⟨output, answer, bodies⟩ := Option.map_eq_some_iff.mp computed
  have answer := ok_of_toOption answer
  obtain ⟨p, planned, -⟩ : ∃ p, run.outcome = .ok (some p) ∧ p.helpers.map (·.name) = _ :=
    planned_of_summary summary
  obtain ⟨k, made, names⟩ := Option.map_eq_some_iff.mp result
  obtain ⟨name, type⟩ := (Prod.mk.injEq ..).mp names
  obtain ⟨service, given, plan⟩ :=
    plans "example.com/gen" toolset (SpecsIndex.ofToolset Twins.catalog toolset) p planned
  obtain rfl := Option.some.inj given
  have declared : back ∈ directions [tool] := List.mem_cons_of_mem _ List.mem_cons_self
  obtain ⟨source, target, -, built⟩ := plan.builds back declared rfl k made
  refine ⟨⟨output, answer, bodies, fun h mem => ?_⟩, p, k, _, planned, ?_, name, type, built⟩
  · obtain ⟨x, y, -, helper⟩ := (outputs [] request output rfl answer).helpers unstarred h mem
    exact ⟨x, y, helper⟩
  · rw [plan.functions]
    exact List.mem_map_of_mem (List.mem_filterMap.mpr ⟨back, declared, made⟩)

end Following

end Toolbridge.Planner
