import Toolbridge.Proofs.Plan.Answers
import Toolbridge.Proofs.Plan.HelperSet

set_option autoImplicit false

/-!
# The course of a run

With a steady engine each conversion comes to the same whatever has been planned before it. A run
gets through its tools just if each of their conversions can be made or left out and no two helpers
conflict, and what it plans is then a matter of the conversions that are made. So nothing about the
draft that a run has come to needs to be known to tell how it goes on.
-/
namespace Toolbridge

namespace Planner

/-- A conversion that may be left out: it is made, or it fails in a way that leaves it out. -/
structure Permits (s : Setting) (source target : End) : Prop where
  compared : s.catalog.checkCompatible source.attr target.attr source.label target.label ≠
    .error .unfinished
  answered : Accepted s source target →
    s.engine [] (conversionRequest source target "v") ≠ .error .unfinished
  helpers : Accepted s source target → ∀ output,
    s.engine [] (conversionRequest source target "v") = .ok output →
      Text.isBlank output.body = true → output.helpers = []

/-- A conversion that may not be left out is made. -/
structure Demands (s : Setting) (source target : End) (sourceVar : String) : Prop where
  accepted : Accepted s source target
  answered : ∃ output, s.engine [] (conversionRequest source target sourceVar) = .ok output ∧
    Text.isBlank output.body = false

namespace Direction

def Passes (s : Setting) (x : Direction) : Prop :=
  if x.isProjection then
    ∃ source target, x.ends? s = some (source, target) ∧
      Demands s source target (x.sourceVar s source.attr)
  else ∀ source target, x.ends? s = some (source, target) → Permits s source target

def made? (s : Setting) (x : Direction) : Option Converted :=
  (x.ends? s).bind fun ends =>
    (output? s ends.1 ends.2 (x.sourceVar s ends.1.attr)).map fun output =>
      ⟨x.function s ends.1.attr ends.2.attr output.body, output.helpers, ends.1.attr,
        ends.2.attr⟩

end Direction

def Given (reference : Option String) : Prop := reference.getD "" ≠ ""

def ToolPasses (s : Setting) (tool : Tool) : Prop :=
  ∀ method, tool.method = some method →
    Given method.payloadRef ∧ Given method.resultRef ∧ ∀ x ∈ toolDirections tool, x.Passes s

def Goes {α : Type} (m : Planner α) (d : Draft) : Prop := ∃ x d', m d = (.ok x, d')

section Steps

variable {α β : Type} {s : Setting} {d d' : Draft} {tool : Tool} {method : MethodBinding}
  {p : Projection} {source target : End} {x : Direction}

theorem goes_pure (x : α) (d : Draft) : Goes (pure x) d := ⟨x, d, rfl⟩

theorem not_goes_throw (stop : Stop PlanError) (d : Draft) : ¬ Goes (throw stop : Planner α) d := by
  rintro ⟨_, _, went⟩
  cases went

theorem not_goes_fail (e : PlanError) (d : Draft) : ¬ Goes (fail e : Planner α) d :=
  not_goes_throw _ _

theorem bind_goes {m : Planner α} {g : α → Planner β} :
    Goes (m >>= g) d ↔ ∃ x e, m d = (.ok x, e) ∧ Goes (g x) e := by
  constructor
  · rintro ⟨y, d', went⟩
    obtain ⟨x, e, first, rest⟩ := bind_ok went
    exact ⟨x, e, first, y, d', rest⟩
  · rintro ⟨x, e, first, y, d', rest⟩
    have step : (m >>= g) d = ExceptT.bindCont g (m d).1 (m d).2 := rfl
    rw [first] at step
    exact ⟨y, d', step.trans rest⟩

theorem bind_goes_of_ok {m : Planner α} {g : α → Planner β} {x : α} {e : Draft}
    (first : m d = (.ok x, e)) : Goes (m >>= g) d ↔ Goes (g x) e := by
  rw [bind_goes, first]
  constructor
  · rintro ⟨_, _, same, rest⟩
    cases same
    exact rest
  · exact fun rest => ⟨x, e, rfl, rest⟩

theorem helped_goes {m : Planner α} {g : α → Planner β} {here later : Prop}
    {first rest : List Helper} (step : Goes m d ↔ here ∧ (d.helpers.extend first).2 = none)
    (next : ∀ {x e}, m d = (.ok x, e) → (d.helpers.extend first).1 = e.helpers)
    (goesOn : ∀ {x e}, Goes (g x) e ↔ later ∧ (e.helpers.extend rest).2 = none) :
    Goes (m >>= g) d ↔ (here ∧ later) ∧ (d.helpers.extend (first ++ rest)).2 = none := by
  rw [HelperSet.extend_append_none, bind_goes]
  constructor
  · rintro ⟨x, e, went, goes⟩
    obtain ⟨passes, fits⟩ := step.mp ⟨x, e, went⟩
    obtain ⟨others, more⟩ := goesOn.mp goes
    exact ⟨⟨passes, others⟩, fits, next went ▸ more⟩
  · rintro ⟨⟨passes, others⟩, fits, more⟩
    obtain ⟨x, e, went⟩ := step.mpr ⟨passes, fits⟩
    exact ⟨x, e, went, goesOn.mpr ⟨others, next went ▸ more⟩⟩

theorem checkedBody_goes {function : String} {output : ConversionOutput} {required : Bool} :
    Goes (checkedBody s tool function output required) d ↔
      (Text.isBlank output.body = true → required = false ∧ output.helpers = []) := by
  unfold checkedBody
  cases blank : Text.isBlank output.body with
  | false => exact iff_of_true (goes_pure _ _) nofun
  | true =>
    cases required with
    | true => exact iff_of_false (not_goes_fail _ _) fun h => nomatch (h rfl).1
    | false =>
      cases helpers : output.helpers with
      | nil => exact iff_of_true ⟨none, _, rfl⟩ fun _ => ⟨rfl, rfl⟩
      | cons h rest => exact iff_of_false (not_goes_fail _ _) fun h => nomatch (h rfl).2

theorem optionalConversion_goes (steady : Steady s.engine) {function : String} :
    Goes (optionalConversion s tool function source target) d ↔ Permits s source target := by
  unfold optionalConversion
  cases compared : s.catalog.checkCompatible source.attr target.attr source.label target.label with
  | error stop =>
    have rejected : ¬ Accepted s source target := by
      unfold Accepted
      rw [compared]
      nofun
    cases stop with
    | unfinished => exact iff_of_false (not_goes_throw _ _) fun h => h.compared compared
    | failed e =>
      refine iff_of_true ⟨none, _, rfl⟩ ⟨?_, fun h => absurd h rejected, fun h => absurd h rejected⟩
      rw [compared]
      nofun
  | ok _ =>
    have ended : s.catalog.checkCompatible source.attr target.attr source.label target.label ≠
        .error .unfinished := by
      rw [compared]
      nofun
    have asked : request s.engine (conversionRequest source target "v") d =
        (.ok (s.engine [] (conversionRequest source target "v")),
          afterRequest d (conversionRequest source target "v")) := by
      rw [← steady d.requests]
      rfl
    dsimp only
    rw [bind_goes_of_ok asked]
    cases answered : s.engine [] (conversionRequest source target "v") with
    | error stop =>
      cases stop with
      | unfinished =>
        exact iff_of_false (not_goes_throw _ _) fun h => h.answered compared answered
      | failed e =>
        refine iff_of_true ⟨none, _, rfl⟩ ⟨ended, fun _ => ?_, fun _ output given => ?_⟩
        · rw [answered]
          nofun
        · rw [answered] at given
          cases given
    | ok output =>
      dsimp only
      rw [checkedBody_goes]
      constructor
      · intro bare
        refine ⟨ended, fun _ => ?_, fun _ output' given blank => ?_⟩
        · rw [answered]
          nofun
        · rw [answered] at given
          cases given
          exact (bare blank).2
      · exact fun h blank => ⟨rfl, h.helpers compared output answered blank⟩

theorem addFunction_goes {function : PlannedFunction} {helpers : List Helper} {a b : Attribute} :
    Goes (addFunction s function helpers a b) d ↔ (d.helpers.extend helpers).2 = none := by
  unfold addFunction
  refine Iff.trans (bind_goes_of_ok rfl) (Iff.trans (bind_goes_of_ok rfl) ?_)
  refine Iff.trans (bind_goes_of_ok rfl) ?_
  cases conflict : (d.helpers.extend helpers).2 with
  | none => exact iff_of_true ⟨(), _, rfl⟩ rfl
  | some e => exact iff_of_false (not_goes_fail _ _) nofun

theorem output?_of_demands {sourceVar : String} (h : Demands s source target sourceVar) :
    ∃ output, output? s source target sourceVar = some output ∧
      s.engine [] (conversionRequest source target sourceVar) = .ok output ∧
        Text.isBlank output.body = false := by
  obtain ⟨output, answered, content⟩ := h.answered
  refine ⟨output, ?_, answered, content⟩
  unfold output?
  rw [h.accepted]
  simp only [answered, content, Bool.false_eq_true, if_false]

end Steps

def planDirection (s : Setting) : Direction → Planner Unit
  | .payload tool method => planPayload s tool method (method.payloadRef.getD "")
  | .result tool method => planResult s tool method (method.resultRef.getD "")
  | .projection tool method p => planServerData s tool method p

namespace Direction

/-- The helpers that come with the conversion. -/
def helpers (s : Setting) (x : Direction) : List Helper := (x.made? s).toList.flatMap (·.helpers)

section Ends

variable {s : Setting} {x : Direction} {source target : End} {tool : Tool} {method : MethodBinding}
  {p : Projection}

theorem passes_of_none (optional : x.isProjection = false) (nothing : x.ends? s = none) :
    x.Passes s := by
  unfold Passes
  rw [optional, nothing]
  nofun

theorem passes_iff_permits (optional : x.isProjection = false)
    (ends : x.ends? s = some (source, target)) : x.Passes s ↔ Permits s source target := by
  unfold Passes
  rw [optional, ends]
  constructor
  · exact fun h => h source target rfl
  · rintro h _ _ same
    cases same
    exact h

theorem passes_iff_demands (projection : x.isProjection = true)
    (ends : x.ends? s = some (source, target)) :
    x.Passes s ↔ Demands s source target (x.sourceVar s source.attr) := by
  unfold Passes
  rw [projection, ends]
  constructor
  · rintro ⟨_, _, same, h⟩
    cases same
    exact h
  · exact fun h => ⟨source, target, rfl, h⟩

theorem helpers_of_none (nothing : x.ends? s = none) : x.helpers s = [] := by
  unfold helpers made?
  rw [nothing]
  rfl

theorem helpers_eq (ends : x.ends? s = some (source, target)) :
    x.helpers s =
      ((output? s source target (x.sourceVar s source.attr)).map (·.helpers)).getD [] := by
  unfold helpers made?
  rw [ends, Option.bind_some]
  cases output? s source target (x.sourceVar s source.attr) with
  | none => rfl
  | some output => exact List.append_nil _

theorem made?_payload :
    (payload tool method).made? s = payloadConversion? s tool method := by
  simp only [made?, payloadConversion?, ends?]
  split
  · rfl
  · rw [Option.bind_map]
    rfl

theorem made?_result : (result tool method).made? s = resultConversion? s tool method := by
  simp only [made?, resultConversion?, ends?]
  split
  · rfl
  · rw [Option.bind_map]
    rfl

theorem made?_projection :
    (projection tool method p).made? s = serverDataConversion? s tool method p := by
  unfold made? serverDataConversion? ends?
  simp only [Option.bind_assoc, Option.bind_map]
  rfl

end Ends

end Direction

section Directions

variable {s : Setting} {d d' : Draft} {tool : Tool} {method : MethodBinding} {p : Projection}
  {source target : End} {x : Direction}

theorem converted_goes (steady : Steady s.engine) {name : String}
    (optional : x.isProjection = false) (plain : x.sourceVar s source.attr = "v")
    (ends : x.ends? s = some (source, target)) :
    Goes (optionalConversion s tool name source target >>=
      addConverted s (fun body => x.function s source.attr target.attr body) source.attr
        target.attr) d ↔ x.Passes s ∧ (d.helpers.extend (x.helpers s)).2 = none := by
  rw [Direction.passes_iff_permits optional ends, Direction.helpers_eq ends, plain, bind_goes]
  have added : ∀ {kept e}, optionalConversion s tool name source target d = (.ok kept, e) →
      (Goes (addConverted s (fun body => x.function s source.attr target.attr body) source.attr
        target.attr kept) e ↔
        (d.helpers.extend (((output? s source target "v").map (·.helpers)).getD [])).2 = none) := by
    intro kept e made
    obtain ⟨rfl, same⟩ := optionalConversion_ok steady made
    rw [← same.helpers]
    cases output? s source target "v" with
    | none => exact iff_of_true (goes_pure _ _) rfl
    | some output => exact addFunction_goes
  constructor
  · rintro ⟨kept, e, made, rest⟩
    exact ⟨(optionalConversion_goes steady).mp ⟨kept, e, made⟩, (added made).mp rest⟩
  · rintro ⟨permits, fits⟩
    obtain ⟨kept, e, made⟩ : Goes (optionalConversion s tool name source target) d :=
      (optionalConversion_goes steady).mpr permits
    exact ⟨kept, e, made, (added made).mpr fits⟩

theorem optional_goes {m : Planner Unit} {missing : Bool} {found : Option Attribute}
    {ends : Attribute → End × End} {convert : Attribute → Planner Unit}
    (course : m = if missing then pure () else
      match found with
      | none => pure ()
      | some own => convert own)
    (optional : x.isProjection = false)
    (known : x.ends? s = if missing then none else found.map ends)
    (converted : ∀ own, x.ends? s = some (ends own) → (Goes (convert own) d ↔
      x.Passes s ∧ (d.helpers.extend (x.helpers s)).2 = none)) :
    Goes m d ↔ x.Passes s ∧ (d.helpers.extend (x.helpers s)).2 = none := by
  have skipped : x.ends? s = none → (x.Passes s ∧ (d.helpers.extend (x.helpers s)).2 = none) := by
    intro nothing
    rw [Direction.helpers_of_none nothing]
    exact ⟨Direction.passes_of_none optional nothing, rfl⟩
  rw [course]
  cases missing with
  | true => exact iff_of_true (goes_pure _ _) (skipped known)
  | false =>
    cases found with
    | none => exact iff_of_true (goes_pure _ _) (skipped known)
    | some own => exact converted own known

theorem serverDataStep_goes (steady : Steady s.engine) {source target : Attribute}
    (ends : Direction.ends? s (.projection tool method p) =
      some (projectionSource s method p source, projectionTarget tool p target)) :
    Goes (serverDataStep s tool method p source target) d ↔
      Direction.Passes s (.projection tool method p) ∧
        (d.helpers.extend (Direction.helpers s (.projection tool method p))).2 = none := by
  let origin := projectionSource s method p source
  let into := projectionTarget tool p target
  let sourceVar := projectionVariable s method p source
  rw [Direction.passes_iff_demands rfl ends, Direction.helpers_eq ends]
  change _ ↔ Demands s origin into sourceVar ∧
    (d.helpers.extend (((output? s origin into sourceVar).map (·.helpers)).getD [])).2 = none
  unfold serverDataStep
  by_cases accepted : Accepted s origin into
  swap
  · refine iff_of_false (fun goes => ?_) fun h => accepted h.1.accepted
    obtain ⟨_, e, compared, -⟩ := bind_goes.mp goes
    exact accepted (requireCompatible_ok compared).1
  have compared : requireCompatible s tool p origin into d = (.ok (), d) := by
    unfold requireCompatible
    rw [accepted]
    rfl
  refine Iff.trans (bind_goes_of_ok compared) (Iff.trans (bind_goes_of_ok rfl) ?_)
  rw [steady]
  cases answered : s.engine [] (conversionRequest origin into sourceVar) with
  | error stop =>
    have unanswered : ¬ Demands s origin into sourceVar := by
      rintro ⟨-, output, given, -⟩
      rw [answered] at given
      cases given
    cases stop <;> exact iff_of_false (not_goes_throw _ _) fun h => unanswered h.1
  | ok output =>
    cases blank : Text.isBlank output.body with
    | true =>
      refine iff_of_false (fun goes => ?_) ?_
      · obtain ⟨kept, e, checked, -⟩ := bind_goes.mp goes
        cases (checkedBody_goes.mp ⟨kept, e, checked⟩ blank).1
      · rintro ⟨⟨-, output', given, content⟩, -⟩
        rw [answered] at given
        cases given
        rw [blank] at content
        cases content
    | false =>
      have demands : Demands s origin into sourceVar := ⟨accepted, output, answered, blank⟩
      obtain ⟨output', made, given, -⟩ := output?_of_demands demands
      obtain rfl := Except.ok.inj (answered.symm.trans given)
      have checked : checkedBody s tool ("Init" ++ tool.goName ++ p.goKind ++ "ServerData") output
          true (afterRequest d (conversionRequest origin into sourceVar)) =
            (.ok (some output), afterRequest d (conversionRequest origin into sourceVar)) := by
        unfold checkedBody
        rw [blank]
        rfl
      rw [made]
      refine Iff.trans (bind_goes_of_ok checked) (addFunction_goes.trans ?_)
      exact (and_iff_right demands).symm

theorem planServerData_goes (steady : Steady s.engine) :
    Goes (planServerData s tool method p) d ↔
      Direction.Passes s (.projection tool method p) ∧
        (d.helpers.extend (Direction.helpers s (.projection tool method p))).2 = none := by
  have missing : Direction.ends? s (.projection tool method p) = none →
      ¬ (Direction.Passes s (.projection tool method p) ∧
        (d.helpers.extend (Direction.helpers s (.projection tool method p))).2 = none) := by
    rintro nothing ⟨⟨_, _, given, -⟩, -⟩
    rw [nothing] at given
    cases given
  rw [planServerData_eq]
  cases projected : (s.catalog.field? method.result p.field).filter fun a => !a.isEmpty with
  | none =>
    refine iff_of_false (fun goes => ?_) (missing ?_)
    · obtain ⟨a, e, found, -⟩ := bind_goes.mp goes
      rw [(projectedField_ok found).1] at projected
      cases projected
    · simp only [Direction.ends?, projected, Option.bind_none]
  | some source =>
    have found : projectedField s tool method p d = (.ok source, d) := by
      unfold projectedField
      rw [projected]
      rfl
    refine Iff.trans (bind_goes_of_ok found) ?_
    cases declared : s.index.get? (serverDataTypeName tool p) with
    | none =>
      refine iff_of_false (fun goes => ?_) (missing ?_)
      · obtain ⟨a, e, type, -⟩ := bind_goes.mp goes
        rw [(serverDataType_ok type).1] at declared
        cases declared
      · simp only [Direction.ends?, projected, declared, Option.bind_some, Option.map_none]
    | some target =>
      have type : serverDataType s tool p d = (.ok target, d) := by
        unfold serverDataType
        rw [declared]
        rfl
      refine Iff.trans (bind_goes_of_ok type) (serverDataStep_goes steady ?_)
      simp only [Direction.ends?, projected, declared, Option.bind_some, Option.map_some]

theorem planPayload_goes (steady : Steady s.engine) :
    Goes (planPayload s tool method (method.payloadRef.getD "")) d ↔
      Direction.Passes s (.payload tool method) ∧
        (d.helpers.extend (Direction.helpers s (.payload tool method))).2 = none := by
  refine optional_goes rfl rfl rfl fun own ends => ?_
  exact converted_goes (x := .payload tool method) steady rfl rfl ends

theorem planResult_goes (steady : Steady s.engine) :
    Goes (planResult s tool method (method.resultRef.getD "")) d ↔
      Direction.Passes s (.result tool method) ∧
        (d.helpers.extend (Direction.helpers s (.result tool method))).2 = none := by
  refine optional_goes rfl rfl rfl fun own ends => ?_
  exact converted_goes (x := .result tool method) steady rfl rfl ends

theorem planDirection_goes (steady : Steady s.engine) :
    Goes (planDirection s x) d ↔ x.Passes s ∧ (d.helpers.extend (x.helpers s)).2 = none := by
  cases x with
  | payload tool method => exact planPayload_goes steady
  | result tool method => exact planResult_goes steady
  | projection tool method p => exact planServerData_goes steady

theorem planDirection_ok (steady : Steady s.engine) {u : Unit}
    (h : planDirection s x d = (.ok u, d')) : Extends s d d' (x.made? s).toList := by
  cases x with
  | payload tool method =>
    rw [Direction.made?_payload]
    exact planPayload_ok steady h
  | result tool method =>
    rw [Direction.made?_result]
    exact planResult_ok steady h
  | projection tool method p =>
    rw [Direction.made?_projection]
    exact planServerData_ok steady h

end Directions

def planDirections (s : Setting) : List Direction → Planner Unit
  | [] => pure ()
  | x :: rest => do
    planDirection s x
    planDirections s rest

section Tools

variable {s : Setting} {d : Draft} {tool : Tool} {method : MethodBinding} {xs : List Direction}
  {tools : List Tool}

theorem planDirections_goes (steady : Steady s.engine) :
    Goes (planDirections s xs) d ↔
      (∀ x ∈ xs, x.Passes s) ∧ (d.helpers.extend (xs.flatMap (·.helpers s))).2 = none := by
  induction xs generalizing d with
  | nil => exact iff_of_true (goes_pure _ _) ⟨nofun, rfl⟩
  | cons x rest ih =>
    rw [List.flatMap_cons, List.forall_mem_cons]
    refine helped_goes (planDirection_goes steady) (fun went => ?_) ih
    exact congrArg Prod.fst (planDirection_ok steady went).helpers

theorem planProjections_eq (projections : List Projection) :
    planProjections s tool method projections =
      planDirections s (projections.map (.projection tool method)) := by
  induction projections with
  | nil => rfl
  | cons p rest ih =>
    rw [planProjections, ih]
    rfl

theorem requiredRef_given {reference : Option String} {datum : MethodDatum}
    (given : Given reference) :
    requiredRef s tool reference datum d = (.ok (reference.getD ""), d) := by
  unfold requiredRef
  cases reference with
  | none => exact absurd rfl given
  | some text =>
    have something : text.isEmpty = false := by
      rw [Bool.eq_false_iff, ne_eq, String.isEmpty_iff]
      exact given
    dsimp only
    rw [something]
    rfl

theorem given_of_ok {reference : Option String} {datum : MethodDatum} {text : String} {d' : Draft}
    (h : requiredRef s tool reference datum d = (.ok text, d')) : Given reference := by
  unfold requiredRef at h
  cases reference with
  | none => exact absurd h not_fail
  | some text =>
    rintro rfl
    exact absurd h not_fail

theorem toolDirections_of_bound (bound : tool.method = some method) :
    toolDirections tool =
      .payload tool method :: .result tool method :: tool.serverData.map (.projection tool method) := by
  unfold toolDirections
  rw [bound]

theorem toolPasses_of_bound (bound : tool.method = some method) :
    ToolPasses s tool ↔ Given method.payloadRef ∧ Given method.resultRef ∧
      ∀ x ∈ toolDirections tool, x.Passes s := by
  unfold ToolPasses
  rw [bound]
  constructor
  · exact fun h => h method rfl
  · rintro h _ same
    cases same
    exact h

theorem planTool_goes (steady : Steady s.engine) (bound : tool.method = some method) :
    Goes (planTool s tool method) d ↔ ToolPasses s tool ∧
      (d.helpers.extend ((toolDirections tool).flatMap (·.helpers s))).2 = none := by
  have planned : Given method.payloadRef → Given method.resultRef →
      (Goes (planTool s tool method) d ↔ Goes (planDirections s (toolDirections tool)) d) := by
    intro payload result
    unfold planTool
    refine Iff.trans (bind_goes_of_ok (requiredRef_given payload)) ?_
    refine Iff.trans (bind_goes_of_ok (requiredRef_given result)) ?_
    rw [planProjections_eq, toolDirections_of_bound bound]
    rfl
  rw [toolPasses_of_bound bound]
  constructor
  · intro goes
    obtain ⟨_, e, given, rest⟩ := bind_goes.mp goes
    obtain ⟨_, e', given', -⟩ := bind_goes.mp rest
    have payload := given_of_ok given
    have result := given_of_ok given'
    obtain ⟨passes, fits⟩ := (planDirections_goes steady).mp ((planned payload result).mp goes)
    exact ⟨⟨payload, result, passes⟩, fits⟩
  · rintro ⟨⟨payload, result, passes⟩, fits⟩
    exact (planned payload result).mpr ((planDirections_goes steady).mpr ⟨passes, fits⟩)

theorem toolConversions_eq_made (tool : Tool) :
    toolConversions s tool = (toolDirections tool).filterMap (·.made? s) := by
  unfold toolConversions toolDirections
  cases tool.method with
  | none => rfl
  | some method =>
    have projections : tool.serverData.filterMap (serverDataConversion? s tool method) =
        (tool.serverData.map (Direction.projection tool method)).filterMap (·.made? s) := by
      rw [List.filterMap_map]
      exact List.filterMap_congr fun p _ => Direction.made?_projection.symm
    dsimp only
    rw [projections, List.filterMap_cons, List.filterMap_cons, Direction.made?_payload,
      Direction.made?_result]
    cases payloadConversion? s tool method <;> cases resultConversion? s tool method <;> rfl

theorem helpers_toolConversions (tool : Tool) :
    (toolConversions s tool).flatMap (·.helpers) =
      (toolDirections tool).flatMap (·.helpers s) := by
  rw [toolConversions_eq_made]
  induction toolDirections tool with
  | nil => rfl
  | cons x rest ih =>
    rw [List.flatMap_cons, ← ih, List.filterMap_cons]
    unfold Direction.helpers
    cases x.made? s with
    | none => rfl
    | some k => simp

theorem planTools_goes (steady : Steady s.engine) :
    Goes (planTools s tools) d ↔
      (∀ tool ∈ tools, ToolPasses s tool) ∧
        (d.helpers.extend ((conversions s tools).flatMap (·.helpers))).2 = none := by
  induction tools generalizing d with
  | nil => exact iff_of_true (goes_pure _ _) ⟨nofun, rfl⟩
  | cons tool rest ih =>
    have parts : (conversions s (tool :: rest)).flatMap (·.helpers) =
        (toolDirections tool).flatMap (·.helpers s) ++
          (conversions s rest).flatMap (·.helpers) := by
      unfold conversions
      rw [List.flatMap_cons, List.flatMap_append, helpers_toolConversions]
    rw [parts, List.forall_mem_cons, planTools]
    cases bound : tool.method with
    | none =>
      have passes : ToolPasses s tool := by
        intro method given
        rw [bound] at given
        cases given
      have nothing : toolDirections tool = [] := by
        unfold toolDirections
        rw [bound]
      refine Iff.trans (bind_goes_of_ok rfl) (ih.trans ?_)
      rw [nothing, and_iff_right passes]
      rfl
    | some method =>
      refine helped_goes (planTool_goes steady bound) (fun went => ?_) ih
      rw [← helpers_toolConversions]
      exact congrArg Prod.fst (planTool_ok steady bound went).helpers

end Tools

/-- Nothing stands in the way of the tools, and their helpers do not conflict. -/
structure Settled (s : Setting) : Prop where
  passes : ∀ tool ∈ s.toolset.tools, ToolPasses s tool
  helpers : (HelperSet.extend {} ((conversions s s.toolset.tools).flatMap (·.helpers))).2 = none

def fileOf (s : Setting) (specsDir : String) (service : Service) (made : List Converted) :
    Except NameCollision (Option Plan) :=
  if made.isEmpty then .ok none
  else
    (ImportBlock.assemble ⟨service.importPath s.root, some s.servicePackage⟩
      (PendingImports.addAll {} (made.flatMap (·.imports s)))).map fun imports =>
        some
          { path := planPath specsDir, package := s.toolset.specsPackage, imports,
            functions := made.map (·.function),
            helpers := (HelperSet.extend {} (made.flatMap (·.helpers))).1.helpers }

section Files

variable {s : Setting} {specsDir : String} {service : Service} {d d' : Draft} {p? : Option Plan}
  {made : List Converted}

theorem fileOf_eq_none : fileOf s specsDir service made = .ok none ↔ made = [] := by
  unfold fileOf
  cases made with
  | nil => exact iff_of_true rfl rfl
  | cons k rest =>
    refine iff_of_false ?_ nofun
    rw [List.isEmpty_cons, if_neg Bool.false_ne_true]
    cases ImportBlock.assemble ⟨service.importPath s.root, some s.servicePackage⟩
      (PendingImports.addAll {} ((k :: rest).flatMap (·.imports s))) <;> exact nofun

/-- There is a plan just if something is made and the imports for it can be assembled. -/
theorem fileOf_eq_some {p : Plan} :
    fileOf s specsDir service made = .ok (some p) ↔ made ≠ [] ∧ ∃ imports,
      ImportBlock.assemble ⟨service.importPath s.root, some s.servicePackage⟩
        (PendingImports.addAll {} (made.flatMap (·.imports s))) = .ok imports ∧
      { path := planPath specsDir, package := s.toolset.specsPackage, imports,
        functions := made.map (·.function),
        helpers := (HelperSet.extend {} (made.flatMap (·.helpers))).1.helpers } = p := by
  unfold fileOf
  cases made with
  | nil => exact iff_of_false nofun fun h => h.1 rfl
  | cons k rest =>
    rw [List.isEmpty_cons, if_neg Bool.false_ne_true, and_iff_right (List.cons_ne_nil k rest)]
    cases ImportBlock.assemble ⟨service.importPath s.root, some s.servicePackage⟩
      (PendingImports.addAll {} ((k :: rest).flatMap (·.imports s))) with
    | error e => exact iff_of_false nofun nofun
    | ok imports =>
      constructor
      · exact fun h => ⟨imports, rfl, Option.some.inj (Except.ok.inj h)⟩
      · rintro ⟨_, same, rfl⟩
        cases same
        rfl

/-- What a run comes to in the end is a matter of the conversions that it has made. -/
theorem finish_outcome (extended : Extends s {} d made) :
    (finish s specsDir service d).1 =
      (fileOf s specsDir service made).mapError fun e => .failed (.importCollision e) := by
  have functions : d.functions = made.map (·.function) := extended.functions
  have nothing : d.functions.isEmpty = made.isEmpty := by rw [functions, List.isEmpty_map]
  have imports : PendingImports.addAll {} (made.flatMap (·.imports s)) = d.imports :=
    extended.imports.symm
  have helpers : HelperSet.extend {} (made.flatMap (·.helpers)) = (d.helpers, none) :=
    extended.helpers
  unfold finish fileOf
  rw [← nothing, ← functions, imports, helpers]
  refine (congrArg Prod.fst (apply_ite (fun m : Planner (Option Plan) => m d) _ _ _)).trans ?_
  cases d.functions.isEmpty with
  | true => rfl
  | false =>
    dsimp only [Bool.false_eq_true, if_false]
    cases ImportBlock.assemble ⟨service.importPath s.root, some s.servicePackage⟩ d.imports with
    | error e => rfl
    | ok imports => rfl

theorem finish_ok_iff (extended : Extends s {} d made) :
    (finish s specsDir service d).1 = .ok p? ↔ fileOf s specsDir service made = .ok p? := by
  rw [finish_outcome extended]
  cases fileOf s specsDir service made with
  | error e => exact iff_of_false nofun nofun
  | ok q? => exact ⟨fun h => congrArg _ (Except.ok.inj h), fun h => congrArg _ (Except.ok.inj h)⟩

/-- The outcome of a run for a file, if it has one. -/
theorem planWith_ok_iff {c : Catalog} {engine : Engine} {root : String} {toolset : Toolset}
    {index : SpecsIndex} (steady : Steady engine)
    (directory : toolset.specsDir.filter (fun dir => !dir.isEmpty) = some specsDir)
    (source : toolset.sourceService = some service) :
    (planWith c engine root toolset index).outcome = .ok p? ↔
      Settled ⟨c, engine, root, toolset, service.package, index⟩ ∧
        fileOf ⟨c, engine, root, toolset, service.package, index⟩ specsDir service
          (conversions ⟨c, engine, root, toolset, service.package, index⟩ toolset.tools) =
            .ok p? := by
  let s : Setting := ⟨c, engine, root, toolset, service.package, index⟩
  change (plan c engine root toolset index {}).1 = .ok p? ↔ Settled s ∧
    fileOf s specsDir service (conversions s toolset.tools) = .ok p?
  unfold plan
  rw [directory, source]
  dsimp only
  cases tools : toolset.tools with
  | nil =>
    have settled : Settled s := by
      refine ⟨?_, ?_⟩ <;> dsimp only [s] <;> rw [tools]
      · nofun
      · rfl
    rw [and_iff_right settled]
    exact ⟨fun h => congrArg _ (Except.ok.inj h), fun h => congrArg _ (Except.ok.inj h)⟩
  | cons tool rest =>
    rw [← tools, tools, List.isEmpty_cons, ← tools]
    have goes : Goes (planTools s toolset.tools) {} ↔ Settled s := by
      rw [planTools_goes steady]
      exact ⟨fun h => ⟨h.1, h.2⟩, fun h => ⟨h.passes, h.helpers⟩⟩
    rw [← goes]
    constructor
    · intro went
      obtain ⟨u, d, planned, finished⟩ := bind_ok (d := {}) (Prod.ext went rfl)
      refine ⟨⟨u, d, planned⟩, ?_⟩
      exact (finish_ok_iff (planTools_ok steady planned)).mp (congrArg Prod.fst finished)
    · rintro ⟨⟨u, d, planned⟩, file⟩
      have finished := (finish_ok_iff (planTools_ok steady planned)).mpr file
      have step : ((planTools s toolset.tools >>= fun _ => finish s specsDir service) {}).1 =
          .ok p? := by
        refine Eq.trans ?_ finished
        have run : (planTools s toolset.tools >>= fun _ => finish s specsDir service) {} =
          ExceptT.bindCont (fun _ => finish s specsDir service) (planTools s toolset.tools {}).1
            (planTools s toolset.tools {}).2 := rfl
        rw [run, planned]
        rfl
      exact step

end Files

end Planner
end Toolbridge
