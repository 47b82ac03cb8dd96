import Toolbridge.Proofs.Import.Pending
import Toolbridge.Proofs.Plan.Course
import Toolbridge.Proofs.Plan.OwnTypes
import Toolbridge.Proofs.Plan.Requests
import Mathlib.Data.List.Perm.Basic

set_option autoImplicit false

/-!
# Toolsets in another order

Where no two tools have a type name in common, the conversions of a tool are those it would have
alone. What else goes into a file is a set: the imports that are asked for and the helpers by their
names and signatures. So a plan depends on the tools with a method only, and on their order only in
the order of the functions.
-/
namespace Toolbridge

def Toolset.bound (t : Toolset) : List Tool := t.tools.filter (·.method.isSome)

def Toolset.alone (t : Toolset) (tool : Tool) : Toolset := { t with tools := [tool] }

/-- Two toolsets for one file. -/
structure Toolset.SameFile (t t' : Toolset) : Prop where
  name : t'.name = t.name
  specsDir : t'.specsDir = t.specsDir
  specsPackage : t'.specsPackage = t.specsPackage
  sourceService : t'.sourceService = t.sourceService

theorem Toolset.SameFile.alone {t t' : Toolset} (file : t.SameFile t') (tool : Tool) :
    t'.alone tool = t.alone tool := by
  unfold Toolset.alone
  rw [file.name, file.specsDir, file.specsPackage, file.sourceService]

theorem Toolset.SameFile.symm {t t' : Toolset} (file : t.SameFile t') : t'.SameFile t :=
  ⟨file.name.symm, file.specsDir.symm, file.specsPackage.symm, file.sourceService.symm⟩

theorem Toolset.mem_bound {t : Toolset} {tool : Tool} (mem : tool ∈ t.bound) : tool ∈ t.tools :=
  List.mem_of_mem_filter mem

def Helper.head (h : Helper) : String × String × String := (h.name, h.paramType, h.resultType)

theorem Helper.SameHead.head {h g : Helper} (same : h.SameHead g) : h.head = g.head := by
  unfold Helper.head
  rw [same.name, same.paramType, same.resultType]

/-- The names and signatures of the helpers. -/
def Plan.helperHeads (p : Plan) : Set (String × String × String) := {x | x ∈ p.helpers.map (·.head)}

theorem HelperSet.mem_heads_extend {helpers : List Helper} (agree : Agreeing helpers)
    {x : String × String × String} :
    x ∈ (extend {} helpers).1.helpers.map (·.head) ↔ x ∈ helpers.map (·.head) := by
  have took : Took {} helpers (extend {} helpers).1 :=
    took_extend inStep_empty (extend_empty_none.mpr agree)
  constructor
  · intro mem
    obtain ⟨h, here, rfl⟩ := List.mem_map.mp mem
    exact List.mem_map_of_mem (took.origin here)
  · intro mem
    obtain ⟨h, asked, rfl⟩ := List.mem_map.mp mem
    obtain ⟨g, here, same⟩ := took.held h asked
    exact List.mem_map.mpr ⟨g, here, same.head⟩

namespace Planner

/-- The name under which a conversion finds the local type of its tool. -/
def Direction.localName : Direction → String
  | .payload tool _ => payloadTypeName tool
  | .result tool _ => resultTypeName tool
  | .projection tool _ p => serverDataTypeName tool p

section Others

variable {s : Setting} {toolset : Toolset} {index : SpecsIndex} {tool : Tool} {x : Direction}
  {source target : End} {sourceVar : String}

def Setting.besides (s : Setting) (toolset : Toolset) (index : SpecsIndex) : Setting :=
  { s with toolset, index }

theorem Direction.localName_mem (mem : x ∈ toolDirections tool) : x.localName ∈ tool.typeNames := by
  unfold toolDirections at mem
  cases bound : tool.method with
  | none =>
    rw [bound] at mem
    cases mem
  | some method =>
    rw [bound] at mem
    rcases List.mem_cons.mp mem with rfl | mem
    · exact List.mem_cons_self
    rcases List.mem_cons.mp mem with rfl | mem
    · exact List.mem_cons_of_mem _ List.mem_cons_self
    · obtain ⟨p, memP, rfl⟩ := List.mem_map.mp mem
      exact List.mem_cons_of_mem _ (List.mem_cons_of_mem _ (List.mem_map_of_mem memP))

theorem ends?_besides (same : index.get? x.localName = s.index.get? x.localName) :
    x.ends? (s.besides toolset index) = x.ends? s := by
  cases x <;> dsimp only [Direction.localName] at same <;>
    simp only [Direction.ends?, Setting.besides, same]
  rfl

theorem made?_besides (same : index.get? x.localName = s.index.get? x.localName) :
    x.made? (s.besides toolset index) = x.made? s := by
  unfold Direction.made?
  rw [ends?_besides same]
  rfl

theorem toolConversions_besides
    (same : ∀ name ∈ tool.typeNames, index.get? name = s.index.get? name) :
    toolConversions (s.besides toolset index) tool = toolConversions s tool := by
  rw [toolConversions_eq_made, toolConversions_eq_made]
  exact List.filterMap_congr fun x mem => made?_besides (same _ (Direction.localName_mem mem))

theorem permits_besides : Permits (s.besides toolset index) source target ↔
    Permits s source target :=
  ⟨fun h => ⟨h.compared, h.answered, h.helpers⟩, fun h => ⟨h.compared, h.answered, h.helpers⟩⟩

theorem demands_besides : Demands (s.besides toolset index) source target sourceVar ↔
    Demands s source target sourceVar :=
  ⟨fun h => ⟨h.accepted, h.answered⟩, fun h => ⟨h.accepted, h.answered⟩⟩

theorem passes_besides (same : index.get? x.localName = s.index.get? x.localName) :
    x.Passes (s.besides toolset index) ↔ x.Passes s := by
  unfold Direction.Passes
  rw [ends?_besides same]
  simp only [permits_besides, demands_besides]
  rfl

theorem toolPasses_besides (same : ∀ name ∈ tool.typeNames, index.get? name = s.index.get? name) :
    ToolPasses (s.besides toolset index) tool ↔ ToolPasses s tool := by
  unfold ToolPasses
  refine forall₂_congr fun method _ => and_congr_right fun _ => and_congr_right fun _ => ?_
  exact forall₂_congr fun x mem => passes_besides (same _ (Direction.localName_mem mem))

theorem toolPasses_of_unbound (unbound : tool.method.isSome = false) : ToolPasses s tool := by
  intro method bound
  rw [bound] at unbound
  cases unbound

theorem toolConversions_of_unbound (unbound : tool.method.isSome = false) :
    toolConversions s tool = [] := by
  have methodless : tool.method = none := by simpa using unbound
  unfold toolConversions
  rw [methodless]

end Others

section Whole

variable {c : Catalog} {root : String} {t t' : Toolset} {service : Service} {tool : Tool}

/-- The setting in which the toolset is planned with the engine that writes Go. -/
def wholeSetting (c : Catalog) (root : String) (t : Toolset) (service : Service) : Setting :=
  goSetting c root t service (SpecsIndex.ofToolset c t)

/-- The conversions that the tool would have alone. -/
def ownConversions (c : Catalog) (root : String) (t : Toolset) (service : Service) (tool : Tool) :
    List Converted :=
  toolConversions (wholeSetting c root (t.alone tool) service) tool

def ownFunctions (c : Catalog) (root : String) (t : Toolset) (tool : Tool) :
    List PlannedFunction :=
  match t.sourceService with
  | none => []
  | some service => (ownConversions c root t service tool).map (·.function)

theorem alone_sees_same (own : OwnNames t.tools) (mem : tool ∈ t.tools) :
    ∀ name ∈ tool.typeNames, (SpecsIndex.ofToolset c (t.alone tool)).get? name =
      (SpecsIndex.ofToolset c t).get? name :=
  fun _ named => (SpecsIndex.get?_ofToolset own mem named).symm

theorem toolConversions_alone (own : OwnNames t.tools) (mem : tool ∈ t.tools) :
    toolConversions (wholeSetting c root t service) tool = ownConversions c root t service tool :=
  (toolConversions_besides (s := wholeSetting c root t service)
    (alone_sees_same own mem)).symm

theorem toolPasses_alone (own : OwnNames t.tools) (mem : tool ∈ t.tools) :
    ToolPasses (wholeSetting c root (t.alone tool) service) tool ↔
      ToolPasses (wholeSetting c root t service) tool :=
  toolPasses_besides (s := wholeSetting c root t service) (alone_sees_same own mem)

theorem conversions_alone (own : OwnNames t.tools) :
    conversions (wholeSetting c root t service) t.tools =
      t.bound.flatMap (ownConversions c root t service) := by
  have part : ∀ tools : List Tool, tools ⊆ t.tools →
      conversions (wholeSetting c root t service) tools =
        (tools.filter (·.method.isSome)).flatMap (ownConversions c root t service) := by
    intro tools inside
    induction tools with
    | nil => rfl
    | cons tool rest ih =>
      have later := ih fun u mem => inside (List.mem_cons_of_mem _ mem)
      have here : toolConversions (wholeSetting c root t service) tool =
          ownConversions c root t service tool :=
        toolConversions_alone own (inside List.mem_cons_self)
      unfold conversions at later ⊢
      rw [List.flatMap_cons, later, List.filter_cons]
      cases bound : tool.method.isSome with
      | true => rw [here, if_pos rfl, List.flatMap_cons]
      | false =>
        rw [toolConversions_of_unbound bound, if_neg Bool.false_ne_true, List.nil_append]
  exact part t.tools (List.Subset.refl _)

theorem settled_alone (own : OwnNames t.tools) :
    Settled (wholeSetting c root t service) ↔
      (∀ tool ∈ t.bound, ToolPasses (wholeSetting c root (t.alone tool) service) tool) ∧
        HelperSet.Agreeing
          ((t.bound.flatMap (ownConversions c root t service)).flatMap (·.helpers)) := by
  rw [← conversions_alone own, ← HelperSet.extend_empty_none]
  constructor
  · intro h
    refine ⟨fun tool mem => ?_, h.helpers⟩
    exact (toolPasses_alone own (Toolset.mem_bound mem)).mpr
      (h.passes tool (Toolset.mem_bound mem))
  · rintro ⟨passes, helpers⟩
    refine ⟨fun tool mem => ?_, helpers⟩
    cases bound : tool.method.isSome with
    | false => exact toolPasses_of_unbound bound
    | true =>
      exact (toolPasses_alone own mem).mp (passes tool (List.mem_filter.mpr ⟨mem, bound⟩))

end Whole

/-- What two plans have in common if the tools with a method are the same. -/
structure SamePlan (c : Catalog) (root : String) (t t' : Toolset) (p p' : Plan) : Prop where
  path : p'.path = p.path
  package : p'.package = p.package
  imports : p'.imports = p.imports
  functions : p.functions = t.bound.flatMap (ownFunctions c root t)
  rearranged : p'.functions = t'.bound.flatMap (ownFunctions c root t)
  helpers : p'.helperHeads = p.helperHeads

/-- Both runs fail, or both have nothing to generate, or both have a plan. -/
inductive SameOutcome (c : Catalog) (root : String) (t t' : Toolset) :
    Except (Stop PlanError) (Option Plan) → Except (Stop PlanError) (Option Plan) → Prop
  | failed (e e' : PlanError) : SameOutcome c root t t' (.error (.failed e)) (.error (.failed e'))
  | nothing : SameOutcome c root t t' (.ok none) (.ok none)
  | planned {p p' : Plan} (same : SamePlan c root t t' p p') :
    SameOutcome c root t t' (.ok (some p)) (.ok (some p'))

section Orders

variable {c : Catalog} {root : String} {t t' : Toolset} {service : Service} {specsDir : String}
  {made made' : List Converted}

theorem planWith_nothing {engine : Engine} {index : SpecsIndex}
    (missing : t.specsDir.filter (fun dir => !dir.isEmpty) = none ∨ t.sourceService = none) :
    (planWith c engine root t index).outcome = .ok none := by
  change (plan c engine root t index {}).1 = .ok none
  unfold plan
  cases directory : t.specsDir.filter fun dir => !dir.isEmpty with
  | none => rfl
  | some specsDir =>
    have nowhere : t.sourceService = none := missing.resolve_left (by rw [directory]; nofun)
    rw [nowhere]
    rfl

theorem fileOf_perm (file : t.SameFile t') (perm : made.Perm made') {p : Plan}
    (agree : HelperSet.Agreeing (made.flatMap (·.helpers)))
    (planned : fileOf (wholeSetting c root t service) specsDir service made = .ok (some p)) :
    ∃ p', fileOf (wholeSetting c root t' service) specsDir service made' = .ok (some p') ∧
      p'.path = p.path ∧ p'.package = p.package ∧ p'.imports = p.imports ∧
        p.functions = made.map (·.function) ∧ p'.functions = made'.map (·.function) ∧
          p'.helperHeads = p.helperHeads := by
  have helpers := perm.flatMap_right (·.helpers)
  have imports :
      PendingImports.addAll {} (made'.flatMap (·.imports (wholeSetting c root t' service))) =
        PendingImports.addAll {} (made.flatMap (·.imports (wholeSetting c root t service))) :=
    PendingImports.addAll_congr fun i => (perm.flatMap_right _).mem_iff.symm
  obtain ⟨nonempty, lines, assembled, rfl⟩ := fileOf_eq_some.mp planned
  have nonempty' : made' ≠ [] := fun nothing => nonempty (nothing ▸ perm).eq_nil
  have agree' : HelperSet.Agreeing (made'.flatMap (·.helpers)) :=
    agree.of_subset helpers.symm.subset
  refine ⟨_, fileOf_eq_some.mpr ⟨nonempty', lines, imports ▸ assembled, rfl⟩, rfl,
    file.specsPackage, rfl, rfl, rfl, ?_⟩
  ext x
  refine (HelperSet.mem_heads_extend agree').trans (Iff.trans ?_
    (HelperSet.mem_heads_extend agree).symm)
  exact (helpers.map _).mem_iff.symm

theorem ownConversions_congr (file : t.SameFile t') :
    ownConversions c root t' service = ownConversions c root t service := by
  funext tool
  unfold ownConversions
  rw [file.alone]

theorem functions_own (source : t.sourceService = some service) (tools : List Tool) :
    (tools.flatMap (ownConversions c root t service)).map (·.function) =
      tools.flatMap (ownFunctions c root t) := by
  rw [List.map_flatMap]
  unfold ownFunctions
  rw [source]

theorem settled_perm (file : t.SameFile t') (perm : t.bound.Perm t'.bound)
    (own : OwnNames t.tools) (own' : OwnNames t'.tools)
    (settled : Settled (wholeSetting c root t service)) :
    Settled (wholeSetting c root t' service) := by
  obtain ⟨passes, agree⟩ := (settled_alone own).mp settled
  refine (settled_alone own').mpr ⟨fun tool mem => ?_, fun h mem g mem' => ?_⟩
  · rw [file.alone]
    exact passes tool (perm.mem_iff.mpr mem)
  · rw [ownConversions_congr file] at mem mem'
    have helpers := (perm.flatMap_right (ownConversions c root t service)).flatMap_right (·.helpers)
    exact agree h (helpers.mem_iff.mpr mem) g (helpers.mem_iff.mpr mem')

theorem sameOutcome_of_ok (file : t.SameFile t') (perm : t.bound.Perm t'.bound)
    (own : OwnNames t.tools) (own' : OwnNames t'.tools) {p? : Option Plan}
    (ok : (planToolset c root t).outcome = .ok p?) :
    SameOutcome c root t t' (.ok p?) (planToolset c root t').outcome := by
  have nothing : t.specsDir.filter (fun dir => !dir.isEmpty) = none ∨ t.sourceService = none →
      SameOutcome c root t t' (.ok p?) (planToolset c root t').outcome := by
    intro missing
    have first : (planToolset c root t).outcome = .ok none := planWith_nothing missing
    rw [← file.specsDir, ← file.sourceService] at missing
    have second : (planToolset c root t').outcome = .ok none := planWith_nothing missing
    rw [ok] at first
    rw [first, second]
    exact .nothing
  cases directory : t.specsDir.filter fun dir => !dir.isEmpty with
  | none => exact nothing (.inl directory)
  | some specsDir =>
  cases source : t.sourceService with
  | none => exact nothing (.inr source)
  | some service =>
    have steady := Conversion.engine_steady c
    have directory' : t'.specsDir.filter (fun dir => !dir.isEmpty) = some specsDir := by
      rw [file.specsDir, directory]
    have source' : t'.sourceService = some service := file.sourceService.trans source
    have made := perm.flatMap_right (ownConversions c root t service)
    obtain ⟨settled, planned⟩ := (planWith_ok_iff steady directory source).mp ok
    have settled' : Settled (wholeSetting c root t' service) :=
      settled_perm file perm own own' settled
    have planned : fileOf (wholeSetting c root t service) specsDir service
        (t.bound.flatMap (ownConversions c root t service)) = .ok p? := by
      rw [← conversions_alone own]
      exact planned
    have other : ∀ {q? : Option Plan}, fileOf (wholeSetting c root t' service) specsDir service
        (t'.bound.flatMap (ownConversions c root t service)) = .ok q? →
          (planToolset c root t').outcome = .ok q? := by
      intro q? file'
      refine (planWith_ok_iff steady directory' source').mpr ⟨settled', ?_⟩
      rw [← ownConversions_congr file, ← conversions_alone own'] at file'
      exact file'
    cases p? with
    | none =>
      have nothing : t'.bound.flatMap (ownConversions c root t service) = [] :=
        (fileOf_eq_none.mp planned ▸ made).symm.eq_nil
      rw [other (fileOf_eq_none.mpr nothing)]
      exact .nothing
    | some p =>
      obtain ⟨p', file', path, package, imports, functions, functions', heads⟩ :=
        fileOf_perm file made ((settled_alone own).mp settled).2 planned
      rw [functions_own source] at functions functions'
      rw [other file']
      exact .planned ⟨path, package, imports, functions, functions', heads⟩

end Orders

/-- A plan depends on the tools with a method only, and on their order only in the order of its
functions. -/
theorem plans_rearranged {c : Catalog} {root : String} {t t' : Toolset} (file : t.SameFile t')
    (perm : t.bound.Perm t'.bound) (own : OwnNames t.tools) (own' : OwnNames t'.tools)
    (ends : (planToolset c root t).outcome ≠ .error .unfinished)
    (ends' : (planToolset c root t').outcome ≠ .error .unfinished) :
    SameOutcome c root t t' (planToolset c root t).outcome (planToolset c root t').outcome := by
  cases first : (planToolset c root t).outcome with
  | ok p? => exact sameOutcome_of_ok file perm own own' first
  | error stop =>
    cases second : (planToolset c root t').outcome with
    | ok p? =>
      have back := sameOutcome_of_ok file.symm perm.symm own' own second
      rw [first] at back
      cases back
    | error stop' =>
      cases stop with
      | unfinished => exact absurd first ends
      | failed e =>
        cases stop' with
        | unfinished => exact absurd second ends'
        | failed e' => exact .failed e e'

/-! Tools `save` and `drop` take notes, whose type has a package of its own, for documents of the
service. A tool `idle` has no method. -/
namespace Shuffled

def entry : Attribute :=
  { type := some (.object [⟨"id", .ofType (.primitive .string)⟩]), required := ["id"] }

def catalog : Catalog :=
  ⟨[{ name := "Note", location := some ⟨"example.com/shared/notes", "notes"⟩, body := entry },
    { name := "Doc", service := some "alpha", body := entry }]⟩

def holding (field : String) (id : TypeId) : Attribute :=
  { type := some (.object [⟨field, .ofType (.user id)⟩]), required := [field] }

def tool (name method field : String) : Tool :=
  { name, qualifiedName := Tool.qualify "alpha.ops" name, args := holding field 0,
    method := some
      { name := method, payload := holding field 1, result := {},
        payloadRef := some ("*alpha." ++ method ++ "Payload"), resultRef := some "string" } }

def save : Tool := tool "save" "Save" "doc"

def drop : Tool := tool "drop" "Drop" "old"

def idle : Tool := { name := "idle", qualifiedName := "alpha.ops.idle", args := entry }

def toolset (tools : List Tool) : Toolset :=
  { name := "alpha.ops", specsDir := some "gen/docs", specsPackage := "ops",
    sourceService := some ⟨"alpha", "alpha"⟩, tools }

def run (tools : List Tool) : PlanRun := planToolset catalog "example.com/gen" (toolset tools)

def names? (tools : List Tool) : Option (List String × List String) :=
  (run tools).outcome.toOption.join.map fun p =>
    (p.functions.map (·.name), p.helpers.map (·.name))

theorem shuffled_plans :
    ∃ p p', (run [save, drop]).outcome = .ok (some p) ∧
      (run [drop, idle, save]).outcome = .ok (some p') ∧
        SamePlan catalog "example.com/gen" (toolset [save, drop]) (toolset [drop, idle, save]) p p' ∧
          p.functions.map (·.name) = ["InitSaveMethodPayload", "InitDropMethodPayload"] ∧
            p'.functions.map (·.name) = ["InitDropMethodPayload", "InitSaveMethodPayload"] ∧
              p.helpers.map (·.name) = ["transformNotesNoteToAlphaDoc"] := by
  have summary : names? [save, drop] = some (["InitSaveMethodPayload", "InitDropMethodPayload"],
      ["transformNotesNoteToAlphaDoc"]) := by
    decide +kernel
  have summary' : names? [drop, idle, save] =
      some (["InitDropMethodPayload", "InitSaveMethodPayload"],
        ["transformNotesNoteToAlphaDoc"]) := by
    decide +kernel
  obtain ⟨p, planned, names⟩ : ∃ p, (run [save, drop]).outcome = .ok (some p) ∧
      (p.functions.map (·.name), p.helpers.map (·.name)) = _ := planned_of_summary summary
  obtain ⟨p', planned', names'⟩ : ∃ p, (run [drop, idle, save]).outcome = .ok (some p) ∧
      (p.functions.map (·.name), p.helpers.map (·.name)) = _ := planned_of_summary summary'
  have perm : (toolset [save, drop]).bound.Perm (toolset [drop, idle, save]).bound :=
    List.Perm.swap drop save []
  have own : OwnNames (toolset [save, drop]).tools := ownNames_of_pairwise (by decide +kernel)
  have own' : OwnNames (toolset [drop, idle, save]).tools :=
    ownNames_of_pairwise (by decide +kernel)
  have ends : (run [save, drop]).outcome ≠ .error .unfinished := by
    rw [planned]
    nofun
  have ends' : (run [drop, idle, save]).outcome ≠ .error .unfinished := by
    rw [planned']
    nofun
  have file : (toolset [save, drop]).SameFile (toolset [drop, idle, save]) := ⟨rfl, rfl, rfl, rfl⟩
  have same := plans_rearranged file perm own own' ends ends'
  have outcomes : SameOutcome catalog "example.com/gen" (toolset [save, drop])
      (toolset [drop, idle, save]) (.ok (some p)) (.ok (some p')) := by
    rw [← planned, ← planned']
    exact same
  cases outcomes with
  | planned same =>
    obtain ⟨functions, helpers⟩ := Prod.mk.inj names
    exact ⟨p, p', planned, planned', same, functions, (Prod.mk.inj names').1, helpers⟩

end Shuffled

end Planner
end Toolbridge
