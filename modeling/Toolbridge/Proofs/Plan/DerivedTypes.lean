import Toolbridge.Proofs.Plan.Failures
import Toolbridge.Proofs.Plan.Imports
import Toolbridge.Proofs.Plan.OwnTypes

set_option autoImplicit false

namespace Toolbridge

namespace SpecsIndex

section Presence

variable {c : Catalog} {index : SpecsIndex} {name : String} {a : Attribute} {t : Tool}
  {p : Projection}

theorem Enters.isSome {step : SpecsIndex → SpecsIndex} (h : Enters step)
    (held : (index.get? name).isSome) : ((step index).get? name).isSome := by
  rw [h index name, Option.isSome_or, held, Bool.or_true]

theorem isSome_foldl {α : Type} {step : SpecsIndex → α → SpecsIndex} {items : List α} {x : α}
    (each : ∀ x ∈ items, Enters fun index => step index x) (mem : x ∈ items)
    (entered : ((step {} x).get? name).isSome) : ((items.foldl step index).get? name).isSome := by
  induction items generalizing index with
  | nil => cases mem
  | cons first rest ih =>
    obtain ⟨here, others⟩ := List.forall_mem_cons.mp each
    rw [List.foldl_cons]
    rcases List.mem_cons.mp mem with rfl | later
    · refine (Enters.foldl others).isSome ?_
      have entry : (step index x).get? name = _ := here index name
      rw [entry, Option.isSome_or, entered, Bool.true_or]
    · exact ih others later

theorem isSome_insert (full : a.isEmpty = false) : ((index.insert c name a).get? name).isSome := by
  rw [get?_insert, if_pos ⟨full, rfl⟩, Option.isSome_some]

theorem isSome_insertTool (declares : t.Declares c name a) (full : a.isEmpty = false) :
    ((insertTool c {} t).get? name).isSome := by
  have projections : Enters fun index => t.serverData.foldl (insertProjection c t) index :=
    .foldl fun p _ => enters_insertProjection p
  cases declares with
  | payload => exact projections.isSome ((enters_insert _ _).isSome (isSome_insert full))
  | result => exact projections.isSome (isSome_insert full)
  | serverData mem shaped =>
    refine isSome_foldl (fun p _ => enters_insertProjection p) mem ?_
    unfold insertProjection
    rw [shaped]
    exact isSome_insert full

/-- A name has a type just if something that is not empty is declared under it, whatever else is. -/
theorem isSome_ofToolset_iff {s : Toolset} : ((ofToolset c s).get? name).isSome ↔
    ∃ t ∈ s.tools, ∃ a, t.Declares c name a ∧ a.isEmpty = false := by
  constructor
  · intro typed
    obtain ⟨b, found⟩ := Option.isSome_iff_exists.mp typed
    obtain ⟨t, mem, name', a, declares, full, same⟩ :=
      ofToolset_declaredBy c s (name, b) (mem_of_get? found)
    obtain ⟨rfl, -⟩ := Prod.mk.inj same
    exact ⟨t, mem, a, declares, full⟩
  · rintro ⟨t, mem, a, declares, full⟩
    exact isSome_foldl (fun t _ => enters_insertTool t) mem (isSome_insertTool declares full)

end Presence

end SpecsIndex

/-- Where a schema is given for server data, it is not empty. -/
def Toolset.FullSchemas (toolset : Toolset) : Prop :=
  ∀ t ∈ toolset.tools, ∀ p ∈ t.serverData, ∀ schema, p.schema = some schema →
    schema.isEmpty = false

namespace Planner

/-- The projected field is there, and a type for it is not. -/
structure Gap (s : Setting) (t : Tool) (m : MethodBinding) (p : Projection) : Prop where
  field : ∃ a, s.catalog.field? m.result p.field = some a ∧ a.isEmpty = false
  type : s.index.get? (serverDataTypeName t p) = none

def TellsGap (s : Setting) (stop : Stop PlanError) : Prop :=
  ∀ toolset tool kind typeName,
    stop = .failed (.serverDataTypeMissing toolset tool kind typeName) →
      ∃ t ∈ s.toolset.tools, ∃ m, t.method = some m ∧ ∃ p ∈ t.serverData, Gap s t m p

section Gaps

variable {s : Setting} {tool : Tool} {method : MethodBinding} {p : Projection}
  {source target : End}

theorem tellsGap_unfinished : TellsGap s .unfinished := nofun

theorem tellsGap_helpers (e : HelperConflict) : TellsGap s (.failed (.helperConflict e)) := nofun

theorem tellsGap_checkedBody (function : String) (output : ConversionOutput) (required : Bool) :
    Throws (TellsGap s) (checkedBody s tool function output required) := by
  unfold checkedBody
  split
  · exact throws_pure _
  · split
    · exact throws_fail nofun
    · exact throws_seq (throws_note _) (throws_pure none)

/-- Whatever the engine answers, it says nothing of types that are missing. -/
theorem tellsGap_optionalConversion (function : String) :
    Throws (TellsGap s) (optionalConversion s tool function source target) := by
  unfold optionalConversion
  cases s.catalog.checkCompatible source.attr target.attr source.label target.label with
  | error stop =>
    cases stop with
    | unfinished => exact throws_throw tellsGap_unfinished
    | failed e => exact throws_seq (throws_note _) (throws_pure none)
  | ok _ =>
    refine throws_bind (throws_of_ok fun d => ⟨_, _, rfl⟩) fun _ answer _ _ => ?_
    cases answer with
    | error stop =>
      cases stop with
      | unfinished => exact throws_throw tellsGap_unfinished
      | failed e => exact throws_seq (throws_note _) (throws_pure none)
    | ok output => exact tellsGap_checkedBody function output false

theorem tellsGap_planPayload (payloadRef : String) :
    Throws (TellsGap s) (planPayload s tool method payloadRef) := by
  refine throws_where_known (x := .payload tool method) rfl rfl fun own _ => ?_
  refine throws_bind (tellsGap_optionalConversion _) fun _ kept _ _ => ?_
  exact throws_addConverted tellsGap_helpers (fun body => ⟨_, _, _, body, _⟩) _ _ kept

theorem tellsGap_planResult (resultRef : String) :
    Throws (TellsGap s) (planResult s tool method resultRef) := by
  refine throws_where_known (x := .result tool method) rfl rfl fun own _ => ?_
  refine throws_bind (tellsGap_optionalConversion _) fun _ kept _ _ => ?_
  exact throws_addConverted tellsGap_helpers (fun body => ⟨_, _, _, body, _⟩) _ _ kept

theorem tellsGap_serverDataStep (a b : Attribute) :
    Throws (TellsGap s) (serverDataStep s tool method p a b) := by
  unfold serverDataStep requireCompatible
  refine throws_seq ?_ (throws_bind (throws_of_ok fun d => ⟨_, _, rfl⟩) fun _ answer _ _ => ?_)
  · split
    · exact throws_pure ()
    · exact throws_fail nofun
    · exact throws_throw tellsGap_unfinished
  · cases answer with
    | error stop =>
      cases stop with
      | unfinished => exact throws_throw tellsGap_unfinished
      | failed e => exact throws_fail nofun
    | ok output =>
      refine throws_bind (tellsGap_checkedBody _ output true) fun _ kept _ _ => ?_
      exact throws_addConverted tellsGap_helpers (projectionFunction s tool method p a b) a b kept

theorem tellsGap_planServerData (mem : tool ∈ s.toolset.tools) (bound : tool.method = some method)
    (declared : p ∈ tool.serverData) :
    Throws (TellsGap s) (planServerData s tool method p) := by
  rw [planServerData_eq]
  refine throws_bind ?_ fun d a d' projected => throws_bind ?_ fun _ b _ _ => ?_
  · unfold projectedField
    split
    · exact throws_pure _
    · exact throws_fail nofun
  · obtain ⟨found, -⟩ := projectedField_ok projected
    obtain ⟨field, full⟩ := Option.filter_eq_some_iff.mp found
    unfold serverDataType
    cases missing : s.index.get? (serverDataTypeName tool p) with
    | some b => exact throws_pure b
    | none =>
      refine throws_fail fun _ _ _ _ _ => ⟨tool, mem, method, bound, p, declared, ?_, missing⟩
      exact ⟨a, field, by simpa using full⟩
  · exact tellsGap_serverDataStep a b

theorem tellsGap_planTool (mem : tool ∈ s.toolset.tools) (bound : tool.method = some method) :
    Throws (TellsGap s) (planTool s tool method) := by
  unfold planTool
  refine throws_bind (throws_requiredRef fun _ => nofun) fun _ payloadRef _ _ => ?_
  refine throws_bind (throws_requiredRef fun _ => nofun) fun _ resultRef _ _ => ?_
  refine throws_seq (tellsGap_planPayload payloadRef) ?_
  refine throws_seq (tellsGap_planResult resultRef) ?_
  exact throws_planProjections fun p => tellsGap_planServerData mem bound

end Gaps

section Derived

variable {c : Catalog} {engine : Engine} {root : String} {toolset : Toolset} {index : SpecsIndex}

theorem gap_of_error {name tool kind typeName : String}
    (failed : (planWith c engine root toolset index).outcome =
      .error (.failed (.serverDataTypeMissing name tool kind typeName))) :
    ∃ service, ∃ t ∈ toolset.tools, ∃ m, t.method = some m ∧ ∃ p ∈ t.serverData,
      Gap ⟨c, engine, root, toolset, service, index⟩ t m p := by
  have throws : Throws (fun stop => ∃ service,
      TellsGap ⟨c, engine, root, toolset, service, index⟩ stop)
      (plan c engine root toolset index) := by
    refine throws_plan fun service _ => ⟨?_, fun _ => ⟨service.package, nofun⟩⟩
    refine throws_planTools fun tool mem method bound => ?_
    exact (tellsGap_planTool mem bound).mono fun _ tells => ⟨service.package, tells⟩
  obtain ⟨service, tells⟩ := throws.stop failed
  exact ⟨service, tells _ _ _ _ rfl⟩

theorem isSome_serverData {t : Tool} {m : MethodBinding} {p : Projection} {a : Attribute}
    (schemas : toolset.FullSchemas) (mem : t ∈ toolset.tools) (bound : t.method = some m)
    (declared : p ∈ t.serverData) (field : c.field? m.result p.field = some a)
    (full : a.isEmpty = false) :
    ((SpecsIndex.ofToolset c toolset).get? (serverDataTypeName t p)).isSome := by
  refine SpecsIndex.isSome_ofToolset_iff.mpr ⟨t, mem, ?_⟩
  cases given : p.schema with
  | some schema =>
    have shaped : SpecsIndex.projectionShape? c t p = some schema := by
      unfold SpecsIndex.projectionShape?
      rw [given]
    exact ⟨schema, .serverData declared shaped, schemas t mem p declared schema given⟩
  | none =>
    have shaped : SpecsIndex.projectionShape? c t p = some a := by
      unfold SpecsIndex.projectionShape?
      rw [given, bound]
      exact field
    exact ⟨a, .serverData declared shaped, full⟩

end Derived

/-- The derived index has a type for every projection whose field is there, so no plan against it
misses one, whatever the engine answers and whatever names come together. -/
theorem derived_types_cover {c : Catalog} {toolset : Toolset} (schemas : toolset.FullSchemas) :
    (∀ t ∈ toolset.tools, ∀ m, t.method = some m → ∀ p ∈ t.serverData, ∀ a,
      c.field? m.result p.field = some a → a.isEmpty = false →
        ((SpecsIndex.ofToolset c toolset).get? (serverDataTypeName t p)).isSome) ∧
    ∀ engine root name tool kind typeName,
      (planWith c engine root toolset (SpecsIndex.ofToolset c toolset)).outcome ≠
        .error (.failed (.serverDataTypeMissing name tool kind typeName)) := by
  have covered : ∀ t ∈ toolset.tools, ∀ m, t.method = some m → ∀ p ∈ t.serverData, ∀ a,
      c.field? m.result p.field = some a → a.isEmpty = false →
        ((SpecsIndex.ofToolset c toolset).get? (serverDataTypeName t p)).isSome :=
    fun t mem m bound p declared a => isSome_serverData schemas mem bound declared
  refine ⟨covered, fun engine root name tool kind typeName failed => ?_⟩
  obtain ⟨service, t, mem, m, bound, p, declared, ⟨a, field, full⟩, missing⟩ := gap_of_error failed
  have there := covered t mem m bound p declared a field full
  have nothing : (SpecsIndex.ofToolset c toolset).get? (serverDataTypeName t p) = none := missing
  rw [nothing] at there
  cases there

/-! Two tools whose projections share the name of their type, and an engine that fails. The second
projection has a schema, which takes the place of the field of the first. -/
namespace Crossing

def text : Attribute := .ofType (.primitive .string)

def record (field : String) : Attribute := .ofType (.object [⟨field, text⟩])

def tool (name : String) (p : Projection) : Tool :=
  { name, qualifiedName := Tool.qualify "alpha.docs" name, serverData := [p],
    method := some
      { name := "Get", payload := {}, result := record "title", payloadRef := some "string",
        resultRef := some "*alpha.GetResult" } }

def get : Tool := tool "get" { kind := "doc_label", field := "title" }

def getDoc (schema : Attribute) : Tool :=
  tool "get_doc" { kind := "label", field := "title", schema := some schema }

def toolset (tools : List Tool) : Toolset :=
  { name := "alpha.docs", specsDir := some "gen/docs", specsPackage := "docs",
    sourceService := some ⟨"alpha", "alpha"⟩, tools }

def run (tools : List Tool) : PlanRun :=
  planWith ⟨[]⟩ (fun _ _ => .error (.failed (.unsupported "v" .mapKey))) "example.com/gen"
    (toolset tools) (SpecsIndex.ofToolset ⟨[]⟩ (toolset tools))

def error? (tools : List Tool) : Option PlanError :=
  match (run tools).outcome with
  | .error (.failed e) => some e
  | _ => none

theorem label_covered :
    (toolset [get, getDoc (record "title")]).FullSchemas ∧
      get.serverData.map (serverDataTypeName get) = ["GetDocLabelServerData"] ∧
      (getDoc {}).serverData.map (serverDataTypeName (getDoc {})) = ["GetDocLabelServerData"] ∧
      ((SpecsIndex.ofToolset ⟨[]⟩ (toolset [get, getDoc (record "title")])).get?
        (serverDataTypeName get { kind := "doc_label", field := "title" })).isSome ∧
      ∀ name tool kind typeName, (run [get, getDoc (record "title")]).outcome ≠
        .error (.failed (.serverDataTypeMissing name tool kind typeName)) := by
  have schemas : (toolset [get, getDoc (record "title")]).FullSchemas := by
    intro t mem p declared schema given
    simp only [toolset, List.mem_cons, List.not_mem_nil, or_false] at mem
    rcases mem with rfl | rfl <;> obtain rfl := List.mem_singleton.mp declared <;> cases given
    rfl
  obtain ⟨covered, never⟩ := derived_types_cover (c := ⟨[]⟩) schemas
  refine ⟨schemas, by decide +kernel, by decide +kernel, ?_, never _ _⟩
  exact covered get List.mem_cons_self _ rfl _ List.mem_cons_self text rfl rfl

example : error? [getDoc {}] = some (.serverDataTypeMissing "alpha.docs" "alpha.docs.get_doc"
    "label" "GetDocLabelServerData") := by
  decide +kernel

end Crossing

end Planner
end Toolbridge
