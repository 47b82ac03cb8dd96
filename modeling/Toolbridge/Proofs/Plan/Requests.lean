import Toolbridge.Proofs.Conversion.Helpers
import Toolbridge.Proofs.Plan.Imports

set_option autoImplicit false

namespace Toolbridge

theorem Conversion.engine_eq_ok {c : Catalog} {earlier : List ConversionRequest}
    {r : ConversionRequest} {output : ConversionOutput} :
    engine c earlier r = .ok output ↔ ∃ code, build c r = .ok code ∧ code.render = output := by
  unfold engine
  cases build c r <;> simp [Except.map]

namespace Planner

variable {s : Setting} {tools : List Tool} {k : Converted} {r : ConversionRequest}
  {origin into : End} {sourceVar : String}

inductive Asked (s : Setting) (tools : List Tool) : Converted → ConversionRequest → Prop where
  | payload {tool : Tool} {method : MethodBinding} {k : Converted} (mem : tool ∈ tools)
      (bound : tool.method = some method) (made : payloadConversion? s tool method = some k) :
      Asked s tools k (conversionRequest ⟨k.source, tool.qualifiedName ++ " payload", ""⟩
        ⟨k.target, method.name ++ " payload", s.servicePackage⟩ "v")
  | result {tool : Tool} {method : MethodBinding} {k : Converted} (mem : tool ∈ tools)
      (bound : tool.method = some method) (made : resultConversion? s tool method = some k) :
      Asked s tools k (conversionRequest ⟨k.source, method.name ++ " result", s.servicePackage⟩
        ⟨k.target, tool.qualifiedName ++ " result", ""⟩ "v")
  | projection {tool : Tool} {method : MethodBinding} {p : Projection} {k : Converted}
      (mem : tool ∈ tools) (bound : tool.method = some method) (asked : p ∈ tool.serverData)
      (made : serverDataConversion? s tool method p = some k) :
      Asked s tools k (conversionRequest (projectionSource s method p k.source)
        (projectionTarget tool p k.target) (projectionVariable s method p k.source))

theorem asked_of_mem (mem : k ∈ conversions s tools) : ∃ r, Asked s tools k r := by
  obtain ⟨tool, memTool, mem⟩ := List.mem_flatMap.mp mem
  obtain ⟨method, bound, payload | result | ⟨p, memP, serverData⟩⟩ := mem_toolConversions mem
  · exact ⟨_, .payload memTool bound payload⟩
  · exact ⟨_, .result memTool bound result⟩
  · exact ⟨_, .projection memTool bound memP serverData⟩

theorem Asked.mem (asked : Asked s tools k r) : k ∈ conversions s tools := by
  have within : ∀ {tool : Tool} {method : MethodBinding} {ks : List Converted}, tool ∈ tools →
      tool.method = some method → k ∈ ks →
        ks ⊆ (payloadConversion? s tool method).toList ++ (resultConversion? s tool method).toList
          ++ tool.serverData.filterMap (serverDataConversion? s tool method) →
          k ∈ conversions s tools := by
    intro tool method ks memTool bound mem sub
    refine List.mem_flatMap.mpr ⟨tool, memTool, ?_⟩
    unfold toolConversions
    rw [bound]
    exact sub mem
  cases asked with
  | payload mem bound made =>
    refine within mem bound (Option.mem_toList.mpr made) ?_
    exact List.Subset.trans (List.subset_append_left _ _) (List.subset_append_left _ _)
  | result mem bound made =>
    refine within mem bound (Option.mem_toList.mpr made) ?_
    exact List.Subset.trans (List.subset_append_right _ _) (List.subset_append_left _ _)
  | projection mem bound memP made =>
    exact within mem bound (List.mem_filterMap.mpr ⟨_, memP, made⟩) (List.subset_append_right _ _)

/-- What is known of a conversion and the request on which it was made. -/
structure Answered (s : Setting) (k : Converted) (r : ConversionRequest) : Prop where
  source : r.source = k.source
  target : r.target = k.target
  noPrefix : r.helperPrefix = ""
  byReference : r.byReference = true
  sourceDefault : r.sourceSide.useDefault = true
  targetDefault : r.targetSide.useDefault = true
  compatible : ∃ leftLabel rightLabel,
    s.catalog.checkCompatible k.source k.target leftLabel rightLabel = .ok ()
  answer : s.engine [] r = .ok ⟨k.function.body, k.helpers⟩

theorem answered_of_output? {output : ConversionOutput}
    (made : output? s origin into sourceVar = some output) (function : String → PlannedFunction)
    (body : ∀ text, (function text).body = text) :
    Answered s ⟨function output.body, output.helpers, origin.attr, into.attr⟩
      (conversionRequest origin into sourceVar) := by
  unfold output? at made
  split at made
  · cases made
  · rename_i compatible
    split at made
    · cases made
    · rename_i answer
      split at made
      · cases made
      · cases made
        refine ⟨rfl, rfl, rfl, rfl, rfl, rfl, ⟨_, _, compatible⟩, ?_⟩
        rw [body]
        exact answer

theorem Asked.answered (asked : Asked s tools k r) : Answered s k r := by
  cases asked with
  | payload _ _ made =>
    obtain ⟨own, output, -, answer, rfl⟩ := payloadConversion?_eq_some made
    exact answered_of_output? answer (fun text => ⟨_, _, _, text, _⟩) fun _ => rfl
  | result _ _ made =>
    obtain ⟨own, output, -, answer, rfl⟩ := resultConversion?_eq_some made
    exact answered_of_output? answer (fun text => ⟨_, _, _, text, _⟩) fun _ => rfl
  | projection _ _ _ made =>
    obtain ⟨source, target, output, -, -, -, answer, rfl⟩ := serverDataConversion?_eq_some made
    exact answered_of_output? answer (projectionFunction s _ _ _ source target) fun _ => rfl

/-- The setting in which a toolset is planned by the engine that writes Go. -/
def goSetting (c : Catalog) (root : String) (toolset : Toolset) (service : Service)
    (index : SpecsIndex) : Setting :=
  ⟨c, Conversion.engine c, root, toolset, service.package, index⟩

/-- The conversion is the text of the code that is built on the request. -/
structure Converted.Written (c : Catalog) (k : Converted) (r : ConversionRequest)
    (code : Conversion.Code) : Prop where
  built : Conversion.build c r = .ok code
  body : k.function.body = Go.blockText code.body
  helpers : k.helpers = code.helpers.map (·.render)

theorem Asked.written (goes : s.engine = Conversion.engine s.catalog)
    (asked : Asked s tools k r) : ∃ code, k.Written s.catalog r code := by
  have answer := asked.answered.answer
  rw [goes] at answer
  obtain ⟨code, built, same⟩ := Conversion.engine_eq_ok.mp answer
  obtain ⟨body, helpers⟩ := (ConversionOutput.mk.injEq ..).mp same
  exact ⟨code, built, body.symm, helpers.symm⟩

/-- A helper of a conversion is built for two attributes below those of the request. -/
theorem Asked.place_of_helper (goes : s.engine = Conversion.engine s.catalog)
    (asked : Asked s tools k r) {h : Helper} (mem : h ∈ k.helpers) :
    ∃ x y, ∃ code : Conversion.HelperCode, Conversion.Place s.catalog r.source r.target x y ∧
      code.Converts (Conversion.frameOf s.catalog r) x y ∧ h = code.render := by
  obtain ⟨code, written⟩ := asked.written goes
  rw [written.helpers] at mem
  obtain ⟨made, here, rfl⟩ := List.mem_map.mp mem
  obtain ⟨x, y, place, converts⟩ := (Conversion.complete_of_build written.built).made made here
  exact ⟨x, y, made, place, converts, rfl⟩

end Planner

namespace Design

/-- What is known of a plan for a toolset of a design: what it is made of, and that nothing in it
refers to more than the types of the design. -/
structure Planned (design : Design) (root : String) (s : Toolset) (service : Service)
    (p : Plan) : Prop where
  closed : design.catalog.Closed
  tools : ∀ t ∈ s.tools, t.Declared design.catalog.types.length
  own : (SpecsIndex.ofToolset design.catalog s).Local design.catalog.types.length
  made : Planner.MadeOf (design.setting root s service) service p

theorem planned_of_resolved {d : DesignDoc} {design : Design} {root : String} {s : Toolset}
    {p : Plan} (keyed : (d.types.map (·.name)).Nodup) (resolved : d.design = .ok design)
    (mem : s ∈ design.toolsets)
    (planned : (planToolset design.catalog root s).outcome = .ok (some p)) :
    ∃ service, s.sourceService = some service ∧ design.Planned root s service p := by
  obtain ⟨closed, tools⟩ := resolve_closed keyed (design_resolve resolved)
  obtain ⟨service, given, made⟩ :=
    Planner.planWith_ok (Conversion.engine_steady design.catalog) planned
  exact ⟨service, given, closed, tools s mem, SpecsIndex.ofToolset_local closed (tools s mem), made⟩

theorem Planned.declared {design : Design} {root : String} {s : Toolset} {service : Service}
    {p : Plan} (h : design.Planned root s service p) :
    ∀ k ∈ Planner.conversions (design.setting root s service) s.tools,
      k.Declared design.catalog.types.length :=
  fun _ here => Planner.declared_conversions h.closed h.own h.tools here

end Design
end Toolbridge
