import Toolbridge.Proofs.Import.Collisions
import Toolbridge.Proofs.Plan.FunctionNames
import Toolbridge.Proofs.Plan.Rearrangement

set_option autoImplicit false

namespace Toolbridge

namespace SpecsIndex

def removeAll (index : SpecsIndex) (names : List String) : SpecsIndex := names.foldl remove index

theorem get?_remove (index : SpecsIndex) (removed name : String) :
    (index.remove removed).get? name = if name = removed then none else index.get? name := by
  unfold remove get?
  induction index.entries with
  | nil => exact (ite_self _).symm
  | cons entry rest ih =>
    obtain ⟨key, a⟩ := entry
    rw [List.filter_cons, List.lookup_cons]
    by_cases out : key = removed
    · rw [if_neg (by simpa using out), ih]
      by_cases asked : name = removed
      · rw [if_pos asked, if_pos asked]
      · have other : (name == key) = false := by simpa [out] using asked
        rw [if_neg asked, if_neg asked, other]
    · rw [if_pos (by simpa using out), List.lookup_cons]
      by_cases here : name = key
      · have kept : name ≠ removed := here ▸ out
        rw [here, beq_self_eq_true, ← here, if_neg kept]
      · rw [beq_eq_false_iff_ne.mpr here]
        exact ih

theorem get?_removeAll (index : SpecsIndex) (names : List String) (name : String) :
    (index.removeAll names).get? name = if name ∈ names then none else index.get? name := by
  induction names generalizing index with
  | nil => rw [if_neg List.not_mem_nil]; rfl
  | cons removed rest ih =>
    change ((index.remove removed).removeAll rest).get? name = _
    rw [ih, get?_remove]
    by_cases later : name ∈ rest
    · rw [if_pos later, if_pos (List.mem_cons_of_mem _ later)]
    · rw [if_neg later]
      simp only [List.mem_cons, later, or_false]

end SpecsIndex

def PayloadOrResult (name : String) : Prop :=
  ∃ tool, name = payloadTypeName tool ∨ name = resultTypeName tool

theorem not_payloadOrResult_serverData (tool : Tool) (p : Projection) :
    ¬ PayloadOrResult (serverDataTypeName tool p) := by
  rintro ⟨other, same | same⟩
  · exact Planner.append_ne_of_last (c := 'a') (d := 'd') rfl rfl (by decide) same
  · exact Planner.append_ne_of_last (c := 'a') (d := 't') rfl rfl (by decide) same

namespace Planner

/-- The conversion of a payload or a result goes with the name of its type. -/
def Direction.Lost (names : List String) : Direction → Prop
  | .payload tool _ => payloadTypeName tool ∈ names
  | .result tool _ => resultTypeName tool ∈ names
  | .projection _ _ _ => False

instance (names : List String) (x : Direction) : Decidable (x.Lost names) := by
  cases x <;> unfold Direction.Lost <;> infer_instance

section Steps

variable {s : Setting} {names : List String} {x : Direction} {tools : List Tool}

def Setting.without (s : Setting) (names : List String) : Setting :=
  s.besides s.toolset (s.index.removeAll names)

theorem lost_iff (types : ∀ name ∈ names, PayloadOrResult name) :
    x.Lost names ↔ x.localName ∈ names := by
  cases x with
  | payload tool method => exact Iff.rfl
  | result tool method => exact Iff.rfl
  | projection tool method p =>
    exact iff_of_false id fun mem => not_payloadOrResult_serverData tool p (types _ mem)

theorem ends?_of_lost (lost : x.Lost names) : x.ends? (s.without names) = none := by
  have gone : ∀ name ∈ names, (s.without names).index.get? name = none := fun name mem =>
    (SpecsIndex.get?_removeAll _ _ _).trans (if_pos mem)
  cases x with
  | payload tool method => simp only [Direction.ends?, gone _ lost, Option.map_none, ite_self]
  | result tool method => simp only [Direction.ends?, gone _ lost, Option.map_none, ite_self]
  | projection tool method p => exact lost.elim

theorem passes_of_lost (lost : x.Lost names) : x.Passes (s.without names) := by
  refine Direction.passes_of_none ?_ (ends?_of_lost lost)
  cases x with
  | payload tool method => rfl
  | result tool method => rfl
  | projection tool method p => exact lost.elim

theorem sees_same (types : ∀ name ∈ names, PayloadOrResult name) (kept : ¬ x.Lost names) :
    (s.index.removeAll names).get? x.localName = s.index.get? x.localName :=
  (SpecsIndex.get?_removeAll _ _ _).trans (if_neg ((lost_iff types).not.mp kept))

theorem passes_without (types : ∀ name ∈ names, PayloadOrResult name) (passes : x.Passes s) :
    x.Passes (s.without names) := by
  by_cases lost : x.Lost names
  · exact passes_of_lost lost
  · exact (passes_besides (sees_same types lost)).mpr passes

theorem made?_without (types : ∀ name ∈ names, PayloadOrResult name) :
    x.made? (s.without names) = if x.Lost names then none else x.made? s := by
  by_cases lost : x.Lost names
  · rw [if_pos lost]
    unfold Direction.made?
    rw [ends?_of_lost lost, Option.bind_none]
  · rw [if_neg lost]
    exact made?_besides (sees_same types lost)

theorem conversions_eq_made (s : Setting) (tools : List Tool) :
    conversions s tools = (directions tools).filterMap (·.made? s) := by
  unfold conversions directions
  rw [List.filterMap_flatMap]
  exact List.flatMap_congr fun tool _ => toolConversions_eq_made tool

theorem conversions_without (types : ∀ name ∈ names, PayloadOrResult name) :
    conversions (s.without names) tools =
      ((directions tools).filter fun x => ¬ x.Lost names).filterMap (·.made? s) := by
  rw [conversions_eq_made, List.filterMap_filter]
  refine List.filterMap_congr fun x _ => (made?_without types).trans ?_
  by_cases lost : x.Lost names <;> simp [lost]

theorem sublist_conversions_without (types : ∀ name ∈ names, PayloadOrResult name) :
    (conversions (s.without names) tools).Sublist (conversions s tools) := by
  rw [conversions_without types, conversions_eq_made]
  exact List.filter_sublist.filterMap _

theorem settled_without (types : ∀ name ∈ names, PayloadOrResult name) (settled : Settled s) :
    Settled (s.without names) where
  passes := by
    intro tool mem method bound
    obtain ⟨payload, result, passes⟩ := settled.passes tool mem method bound
    exact ⟨payload, result, fun x here => passes_without types (passes x here)⟩
  helpers := by
    have fewer : (conversions (s.without names) s.toolset.tools).Sublist
        (conversions s s.toolset.tools) := sublist_conversions_without types
    have helpers := (fewer.flatMap (·.helpers)).subset
    have agree := HelperSet.extend_empty_none.mp settled.helpers
    exact HelperSet.extend_empty_none.mpr (agree.of_subset helpers)

end Steps

def plannedFunctions (c : Catalog) (root : String) (t : Toolset) :
    List (Direction × PlannedFunction) :=
  match t.sourceService with
  | none => []
  | some service =>
    (directions t.tools).filterMap fun x =>
      (x.made? (wholeSetting c root t service)).map fun k => (x, k.function)

/-- Those that do not go with the names. -/
def keptFunctions (c : Catalog) (root : String) (t : Toolset) (names : List String) :
    List (Direction × PlannedFunction) :=
  (plannedFunctions c root t).filter fun f => ¬ f.1.Lost names

/-- What a plan keeps when names are taken out. -/
structure Keeps (c : Catalog) (root : String) (t : Toolset) (names : List String) (p q : Plan) :
    Prop where
  path : q.path = p.path
  package : q.package = p.package
  functions : p.functions = (plannedFunctions c root t).map (·.2)
  kept : q.functions = (keptFunctions c root t names).map (·.2)
  helpers : q.helperHeads ⊆ p.helperHeads
  imports : q.imports.map (·.path) ⊆ p.imports.map (·.path)

/-- What comes of a plan when names are taken out. -/
inductive Leaves (c : Catalog) (root : String) (t : Toolset) (names : List String) :
    Option Plan → Option Plan → Prop
  | nothing : Leaves c root t names none none
  | none {p : Plan} (functions : p.functions = (plannedFunctions c root t).map (·.2))
    (kept : keptFunctions c root t names = []) : Leaves c root t names (some p) none
  | some {p q : Plan} (kept : keptFunctions c root t names ≠ [])
    (keeps : Keeps c root t names p q) : Leaves c root t names (some p) (some q)

section Whole

variable {c : Catalog} {root : String} {t : Toolset} {service : Service} {specsDir : String}
  {names : List String} {s : Setting} {made less : List Converted} {p : Plan}

theorem map_plannedFunctions (source : t.sourceService = some service) :
    (plannedFunctions c root t).map (·.2) =
      (conversions (wholeSetting c root t service) t.tools).map (·.function) := by
  unfold plannedFunctions
  rw [source, conversions_eq_made, List.map_filterMap, List.map_filterMap]
  refine List.filterMap_congr fun x _ => ?_
  rw [Option.map_map]
  rfl

theorem map_keptFunctions (types : ∀ name ∈ names, PayloadOrResult name)
    (source : t.sourceService = some service) :
    (keptFunctions c root t names).map (·.2) =
      (conversions ((wholeSetting c root t service).without names) t.tools).map (·.function) := by
  unfold keptFunctions plannedFunctions
  rw [source, conversions_eq_made, List.filter_filterMap, List.map_filterMap, List.map_filterMap]
  refine List.filterMap_congr fun x _ => ?_
  rw [made?_without types]
  cases x.made? (wholeSetting c root t service) with
  | none => simp
  | some k => by_cases lost : x.Lost names <;> simp [lost]

/-- The file for some of the conversions of another file. -/
theorem fileOf_sublist (names : List String) (fewer : less.Sublist made) (nonempty : less ≠ [])
    (agree : HelperSet.Agreeing (made.flatMap (·.helpers)))
    (planned : fileOf s specsDir service made = .ok (some p)) :
    ∃ q, fileOf (s.without names) specsDir service less = .ok (some q) ∧ q.path = p.path ∧
      q.package = p.package ∧ q.functions = less.map (·.function) ∧
        q.helperHeads ⊆ p.helperHeads ∧ q.imports.map (·.path) ⊆ p.imports.map (·.path) := by
  have asked : less.flatMap (·.imports (s.without names)) ⊆ made.flatMap (·.imports s) :=
    (fewer.flatMap (·.imports s)).subset
  have helpers := (fewer.flatMap (·.helpers)).subset
  have agree' : HelperSet.Agreeing (less.flatMap (·.helpers)) := agree.of_subset helpers
  obtain ⟨-, lines, assembled, rfl⟩ := fileOf_eq_some.mp planned
  obtain ⟨lines', assembled', paths⟩ := ImportBlock.assemble_of_subset asked assembled
  refine ⟨_, fileOf_eq_some.mpr ⟨nonempty, lines', assembled', rfl⟩, rfl, rfl, rfl,
    fun x mem => ?_, paths⟩
  refine (HelperSet.mem_heads_extend agree).mpr ?_
  exact List.map_subset _ helpers ((HelperSet.mem_heads_extend agree').mp mem)

theorem leaves_of_planned {p? : Option Plan} (types : ∀ name ∈ names, PayloadOrResult name)
    (source : t.sourceService = some service) (agree : HelperSet.Agreeing
      ((conversions (wholeSetting c root t service) t.tools).flatMap (·.helpers)))
    (planned : fileOf (wholeSetting c root t service) specsDir service
      (conversions (wholeSetting c root t service) t.tools) = .ok p?) :
    ∃ q?, fileOf ((wholeSetting c root t service).without names) specsDir service
        (conversions ((wholeSetting c root t service).without names) t.tools) = .ok q? ∧
      Leaves c root t names p? q? := by
  let s := wholeSetting c root t service
  have fewer : (conversions (s.without names) t.tools).Sublist (conversions s t.tools) :=
    sublist_conversions_without types
  have kept : (keptFunctions c root t names).map (·.2) =
      (conversions (s.without names) t.tools).map (·.function) := map_keptFunctions types source
  cases p? with
  | none =>
    have nothing : conversions s t.tools = [] := fileOf_eq_none.mp planned
    exact ⟨_, fileOf_eq_none.mpr (List.sublist_nil.mp (nothing ▸ fewer)), .nothing⟩
  | some p =>
    have functions : p.functions = (plannedFunctions c root t).map (·.2) := by
      obtain ⟨-, lines, -, rfl⟩ := fileOf_eq_some.mp planned
      exact (map_plannedFunctions source).symm
    by_cases nothing : conversions (s.without names) t.tools = []
    · rw [nothing, List.map_nil, List.map_eq_nil_iff] at kept
      exact ⟨_, fileOf_eq_none.mpr nothing, .none functions kept⟩
    · obtain ⟨q, file, path, package, made, helpers, imports⟩ :=
        fileOf_sublist names fewer nothing agree planned
      have nonempty : keptFunctions c root t names ≠ [] := by
        intro empty
        rw [empty, List.map_nil] at kept
        exact nothing (List.map_eq_nil_iff.mp kept.symm)
      exact ⟨_, file, .some nonempty ⟨path, package, functions, made.trans kept.symm, helpers, imports⟩⟩

end Whole

/-- Where names of payload and result types are taken out of the index, a plan loses their functions
and nothing else. -/
theorem plan_without_types {c : Catalog} {root : String} {t : Toolset} {names : List String}
    {p? : Option Plan} (types : ∀ name ∈ names, PayloadOrResult name)
    (ok : (planToolset c root t).outcome = .ok p?) :
    ∃ q?, (planWith c (Conversion.engine c) root t
        ((SpecsIndex.ofToolset c t).removeAll names)).outcome = .ok q? ∧
      Leaves c root t names p? q? := by
  have nothing : t.specsDir.filter (fun dir => !dir.isEmpty) = none ∨ t.sourceService = none →
      ∃ q?, (planWith c (Conversion.engine c) root t
          ((SpecsIndex.ofToolset c t).removeAll names)).outcome = .ok q? ∧
        Leaves c root t names p? q? := by
    intro missing
    have first : (planToolset c root t).outcome = .ok none := planWith_nothing missing
    obtain rfl := Except.ok.inj (ok.symm.trans first)
    exact ⟨none, planWith_nothing missing, .nothing⟩
  cases directory : t.specsDir.filter fun dir => !dir.isEmpty with
  | none => exact nothing (.inl directory)
  | some specsDir =>
  cases source : t.sourceService with
  | none => exact nothing (.inr source)
  | some service =>
    have steady := Conversion.engine_steady c
    obtain ⟨settled, planned⟩ := (planWith_ok_iff steady directory source).mp ok
    have settled' : Settled ((wholeSetting c root t service).without names) :=
      settled_without types settled
    obtain ⟨q?, file, leaves⟩ :=
      leaves_of_planned types source (HelperSet.extend_empty_none.mp settled.helpers) planned
    exact ⟨q?, (planWith_ok_iff steady directory source).mpr ⟨settled', file⟩, leaves⟩

/-! A tool `find` beside `drop`, which share a helper, without the payload and the result of `find`.
Its server data stays. -/
namespace Trimmed

open Shuffled

def find : Tool :=
  { name := "find", qualifiedName := Tool.qualify "alpha.ops" "find", args := holding "doc" 0,
    result := holding "doc" 0, serverData := [{ kind := "audit", field := "doc" }],
    method := some
      { name := "Find", payload := holding "doc" 1, result := holding "doc" 1,
        payloadRef := some "*alpha.FindPayload", resultRef := some "*alpha.FindResult" } }

def names : List String := ["FindResult", "FindPayload"]

def trimmed : PlanRun :=
  planWith catalog (Conversion.engine catalog) "example.com/gen" (toolset [find, drop])
    ((SpecsIndex.ofToolset catalog (toolset [find, drop])).removeAll names)

theorem find_trimmed :
    ∃ p q, (run [find, drop]).outcome = .ok (some p) ∧ trimmed.outcome = .ok (some q) ∧
      Keeps catalog "example.com/gen" (toolset [find, drop]) names p q ∧
        p.functions.map (·.name) = ["InitFindMethodPayload", "InitFindToolResult",
          "InitFindAuditServerData", "InitDropMethodPayload"] ∧
          q.functions.map (·.name) = ["InitFindAuditServerData", "InitDropMethodPayload"] ∧
            q.helpers.map (·.name) = ["transformNotesNoteToAlphaDoc"] := by
  have summary : (run [find, drop]).outcome.toOption.join.map (fun p =>
      p.functions.map (·.name)) = some ["InitFindMethodPayload", "InitFindToolResult",
        "InitFindAuditServerData", "InitDropMethodPayload"] := by
    decide +kernel
  have summary' : trimmed.outcome.toOption.join.map (fun p =>
      (p.functions.map (·.name), p.helpers.map (·.name))) =
        some (["InitFindAuditServerData", "InitDropMethodPayload"],
          ["transformNotesNoteToAlphaDoc"]) := by
    decide +kernel
  obtain ⟨p, planned, functions⟩ : ∃ p, (run [find, drop]).outcome = .ok (some p) ∧
      p.functions.map (·.name) = _ := planned_of_summary summary
  obtain ⟨q, planned', left⟩ : ∃ q, trimmed.outcome = .ok (some q) ∧
      (q.functions.map (·.name), q.helpers.map (·.name)) = _ := planned_of_summary summary'
  have types : ∀ name ∈ names, PayloadOrResult name := by
    intro name mem
    rcases List.mem_cons.mp mem with rfl | mem
    · exact ⟨find, .inr (by decide +kernel)⟩
    · rw [List.mem_singleton.mp mem]
      exact ⟨find, .inl (by decide +kernel)⟩
  obtain ⟨q?, outcome, leaves⟩ := plan_without_types types planned
  obtain rfl : q? = some q := Except.ok.inj (outcome.symm.trans planned')
  cases leaves with
  | some kept keeps =>
    obtain ⟨names, helpers⟩ := Prod.mk.inj left
    exact ⟨p, q, planned, planned', keeps, functions, names, helpers⟩

end Trimmed

end Planner
end Toolbridge
