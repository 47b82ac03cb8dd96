import Toolbridge.Proofs.Conversion.Compatible
import Toolbridge.Proofs.Plan.HelperSet
import Toolbridge.Proofs.Plan.Requests

set_option autoImplicit false

namespace Toolbridge

namespace Planner

variable {s : Setting} {k : Converted} {p : Plan} {service : Service}

/-- The functions of a plan and its helpers are the text of code whose calls go to one helper of
the plan each. -/
structure HelpersServe (s : Setting) (p : Plan) : Prop where
  functions : p.functions = (conversions s s.toolset.tools).map (·.function)
  distinct : (p.helpers.map (·.name)).Nodup
  written : ∀ k ∈ conversions s s.toolset.tools,
    ∃ r code, Asked s s.toolset.tools k r ∧ k.Written s.catalog r code
  origin : ∀ h ∈ p.helpers, ∃ k ∈ conversions s s.toolset.tools, h ∈ k.helpers
  served : ∀ k ∈ conversions s s.toolset.tools, ∀ r code, k.Written s.catalog r code →
    ∀ n ∈ code.calls, ∃! h, h ∈ p.helpers ∧ h.name = n

theorem MadeOf.took (made : MadeOf s service p) :
    HelperSet.Took {} ((conversions s s.toolset.tools).flatMap (·.helpers))
      (HelperSet.extend {} ((conversions s s.toolset.tools).flatMap (·.helpers))).1 :=
  HelperSet.took_extend HelperSet.inStep_empty made.agreed

theorem MadeOf.held (made : MadeOf s service p) (mem : k ∈ conversions s s.toolset.tools)
    {h : Helper} (here : h ∈ k.helpers) : ∃ g ∈ p.helpers, g.SameHead h := by
  rw [made.helpers]
  exact made.took.held h (List.mem_flatMap.mpr ⟨k, mem, here⟩)

theorem MadeOf.distinct (made : MadeOf s service p) : (p.helpers.map (·.name)).Nodup := by
  rw [made.helpers]
  exact (HelperSet.inStep_empty.extend _).distinct

theorem MadeOf.origin (made : MadeOf s service p) {h : Helper} (mem : h ∈ p.helpers) :
    ∃ k ∈ conversions s s.toolset.tools, h ∈ k.helpers := by
  rw [made.helpers] at mem
  exact List.mem_flatMap.mp (made.took.origin mem)

theorem helpersServe (goes : s.engine = Conversion.engine s.catalog)
    (made : MadeOf s service p) : HelpersServe s p := by
  refine ⟨made.functions, made.distinct, fun k mem => ?_, fun h => made.origin, ?_⟩
  · obtain ⟨r, asked⟩ := asked_of_mem mem
    obtain ⟨code, written⟩ := asked.written goes
    exact ⟨r, code, asked, written⟩
  · intro k mem r code written n call
    -- the conversion came with a helper of that name
    have own : n ∈ code.helpers.map (·.name) :=
      (Conversion.complete_of_build written.built).called call
    obtain ⟨h, memH, rfl⟩ := List.mem_map.mp own
    have here : h.render ∈ k.helpers := written.helpers ▸ List.mem_map.mpr ⟨h, memH, rfl⟩
    obtain ⟨g, memG, same⟩ := made.held mem here
    exact Helper.existsUnique_of_nodup made.distinct (List.mem_map.mpr ⟨g, memG, same.name⟩)

/-- Nothing is called that is not there, and nothing is there twice: in the answer to one request
and in a plan. -/
theorem each_call_has_one_helper (c : Catalog) :
    (∀ earlier r output, Conversion.engine c earlier r = .ok output →
      ∃ code, Conversion.build c r = .ok code ∧ code.render = output ∧
        Conversion.Complete c r code) ∧
    ∀ root toolset index p,
      (planWith c (Conversion.engine c) root toolset index).outcome = .ok (some p) →
        ∃ service, toolset.sourceService = some service ∧
          HelpersServe (goSetting c root toolset service index) p := by
  refine ⟨fun earlier r output answer => ?_, fun root toolset index p planned => ?_⟩
  · obtain ⟨code, built, same⟩ := Conversion.engine_eq_ok.mp answer
    exact ⟨code, built, same, Conversion.complete_of_build built⟩
  · obtain ⟨service, given, made⟩ := planWith_ok (Conversion.engine_steady c) planned
    exact ⟨service, given, helpersServe rfl made⟩

/-! A tool that takes a chain of one type and answers with one of the other, where both are
recursive and of one shape. -/
namespace Following

open Compatibility

def method : MethodBinding :=
  { name := "Follow", payload := Twins.reference 1, result := Twins.reference 1,
    payloadRef := some "*alpha.Link", resultRef := some "*alpha.Link" }

def tool : Tool :=
  { name := "follow", qualifiedName := "alpha.ops.follow", args := Twins.reference 0,
    result := Twins.reference 0, method := some method }

def alpha : Service := ⟨"alpha", "alpha"⟩

def toolset : Toolset :=
  { name := "alpha.ops", specsDir := some "gen/chains", specsPackage := "chains",
    sourceService := some alpha, tools := [tool] }

def run : PlanRun := planToolset Twins.catalog "example.com/gen" toolset

def names? : Option (List String) :=
  run.outcome.toOption.join.map fun p => p.helpers.map (·.name)

def setting : Setting :=
  goSetting Twins.catalog "example.com/gen" toolset alpha
    (SpecsIndex.ofToolset Twins.catalog toolset)

theorem chains_have_helpers :
    (∃ output, Conversion.engine Twins.catalog [] Conversion.twinsRequest = .ok output ∧
      ∃ code, code.render = output ∧
        Conversion.Complete Twins.catalog Conversion.twinsRequest code) ∧
    ∃ p, run.outcome = .ok (some p) ∧
      p.helpers.map (·.name) = ["transformChainToAlphaLink", "transformAlphaLinkToChain"] ∧
        HelpersServe setting p := by
  obtain ⟨whole, plans⟩ := each_call_has_one_helper Twins.catalog
  obtain ⟨output, answer⟩ := Conversion.twins_answered
  obtain ⟨code, -, same, complete⟩ := whole [] _ output answer
  have summary : names? = some ["transformChainToAlphaLink", "transformAlphaLinkToChain"] := by
    decide +kernel
  obtain ⟨p, planned, names⟩ : ∃ p, run.outcome = .ok (some p) ∧ p.helpers.map (·.name) = _ :=
    planned_of_summary summary
  obtain ⟨service, given, serve⟩ :=
    plans "example.com/gen" toolset (SpecsIndex.ofToolset Twins.catalog toolset) p planned
  obtain rfl := Option.some.inj given
  exact ⟨⟨output, answer, code, same, complete⟩, p, planned, names, serve⟩

end Following

end Planner
end Toolbridge
