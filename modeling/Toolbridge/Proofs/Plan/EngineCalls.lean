import Toolbridge.Proofs.Plan.Conversions

set_option autoImplicit false

namespace Toolbridge.Planner

/-- A conversion that a tool with a method can have. -/
inductive Direction where
  | payload (tool : Tool) (method : MethodBinding)
  | result (tool : Tool) (method : MethodBinding)
  | projection (tool : Tool) (method : MethodBinding) (p : Projection)

namespace Direction

def isProjection : Direction → Bool
  | .projection _ _ _ => true
  | _ => false

def ends? (s : Setting) : Direction → Option (End × End)
  | .payload tool method =>
    if tool.args.isEmpty || method.payload.isEmpty then none
    else
      (s.index.get? (payloadTypeName tool)).map fun own =>
        (⟨own, tool.qualifiedName ++ " payload", ""⟩,
          ⟨method.payload, method.name ++ " payload", s.servicePackage⟩)
  | .result tool method =>
    if tool.result.isEmpty || method.result.isEmpty then none
    else
      (s.index.get? (resultTypeName tool)).map fun own =>
        (⟨method.result, method.name ++ " result", s.servicePackage⟩,
          ⟨own, tool.qualifiedName ++ " result", ""⟩)
  | .projection tool method p =>
    ((s.catalog.field? method.result p.field).filter fun a => !a.isEmpty).bind fun source =>
      (s.index.get? (serverDataTypeName tool p)).map fun target =>
        (projectionSource s method p source, projectionTarget tool p target)

def sourceVar (s : Setting) (source : Attribute) : Direction → String
  | .projection _ method p => projectionVariable s method p source
  | _ => "v"

def function (s : Setting) (source target : Attribute) (body : String) :
    Direction → PlannedFunction
  | .payload tool method =>
    { name := "Init" ++ tool.goName ++ "MethodPayload", paramType := Go.typeRef s.catalog "" source,
      resultType := method.payloadRef.getD "", body }
  | .result tool method =>
    { name := "Init" ++ tool.goName ++ "ToolResult", paramType := method.resultRef.getD "",
      resultType := Go.typeRef s.catalog "" target, body }
  | .projection tool method p => projectionFunction s tool method p source target body

end Direction

def toolDirections (tool : Tool) : List Direction :=
  match tool.method with
  | none => []
  | some method =>
    .payload tool method :: .result tool method :: tool.serverData.map (.projection tool method)

/-- All conversions that the tools can have, in the order in which they are declared. -/
def directions (tools : List Tool) : List Direction := tools.flatMap toolDirections

/-- Values of one end can be converted into the other. -/
def Accepted (s : Setting) (source target : End) : Prop :=
  s.catalog.checkCompatible source.attr target.attr source.label target.label = .ok ()

def Direction.asks (s : Setting) (x : Direction) : Bool :=
  (x.ends? s).any fun ends =>
    (s.catalog.checkCompatible ends.1.attr ends.2.attr ends.1.label ends.2.label).isOk

structure Call where
  direction : Direction
  source : End
  target : End
  answer : Except (Stop ConversionError) ConversionOutput

/-- What there is to plan in an answer. -/
def content? : Except (Stop ConversionError) ConversionOutput → Option ConversionOutput
  | .error _ => none
  | .ok output => if Text.isBlank output.body then none else some output

namespace Call

def request (s : Setting) (k : Call) : ConversionRequest :=
  conversionRequest k.source k.target (k.direction.sourceVar s k.source.attr)

def function? (s : Setting) (k : Call) : Option PlannedFunction :=
  (content? k.answer).map fun output =>
    k.direction.function s k.source.attr k.target.attr output.body

end Call

/-- Each answer was given after the calls before it. -/
def InTurn (s : Setting) (asked : List ConversionRequest) (calls : List Call) : Prop :=
  ∀ earlier k later, calls = earlier ++ k :: later →
    k.answer = s.engine (asked ++ earlier.map (·.request s)) (k.request s)

/-- What a planner did between two drafts while it went through the directions, call by call. -/
structure Accounts (s : Setting) (d d' : Draft) (xs : List Direction) (calls : List Call) :
    Prop where
  requests : d'.requests = d.requests ++ calls.map (·.request s)
  inTurn : InTurn s d.requests calls
  ends : ∀ k ∈ calls, k.direction.ends? s = some (k.source, k.target) ∧
    Accepted s k.source k.target
  asked : calls.map (·.direction) = xs.filter (·.asks s)
  functions : d'.functions = d.functions ++ calls.filterMap (·.function? s)
  projections : ∀ x ∈ xs, x.isProjection = true → x.asks s = true
  kept : ∀ k ∈ calls, k.direction.isProjection = true → (k.function? s).isSome = true

def Serves (s : Setting) (d d' : Draft) (xs : List Direction) : Prop :=
  ∃ calls, Accounts s d d' xs calls

/-- Nothing was asked and nothing was planned. -/
structure Quiet (d d' : Draft) : Prop where
  functions : d'.functions = d.functions
  requests : d'.requests = d.requests

section Accounts

variable {s : Setting} {d d' d'' : Draft} {xs ys : List Direction} {calls more : List Call}
  {x : Direction} {source target : End}

theorem asks_eq_false_of_none (nothing : x.ends? s = none) : x.asks s = false := by
  unfold Direction.asks
  rw [nothing]
  rfl

theorem asks_iff (ends : x.ends? s = some (source, target)) :
    x.asks s = true ↔ Accepted s source target := by
  unfold Direction.asks Accepted
  rw [ends, Option.any_some]
  dsimp only
  cases s.catalog.checkCompatible source.attr target.attr source.label target.label with
  | error stop => simp [Except.isOk, Except.toBool]
  | ok _ => simp [Except.isOk, Except.toBool]

theorem Quiet.refl (d : Draft) : Quiet d d := ⟨rfl, rfl⟩

theorem inTurn_nil (asked : List ConversionRequest) : InTurn s asked [] := by
  intro earlier k later parts
  simp at parts

theorem InTurn.append {asked : List ConversionRequest} (h : InTurn s asked calls)
    (h' : InTurn s (asked ++ calls.map (·.request s)) more) : InTurn s asked (calls ++ more) := by
  intro earlier k later parts
  rcases List.append_eq_append_iff.mp parts with ⟨rest, rfl, here⟩ | ⟨rest, rfl, here⟩
  · have turn := h' rest k later here
    rwa [List.append_assoc, ← List.map_append] at turn
  · cases rest with
    | nil =>
      have turn := h' [] k later here.symm
      simpa using turn
    | cons k' rest =>
      obtain ⟨rfl, -⟩ := List.cons.inj here
      exact h earlier k rest rfl

theorem Quiet.serves (h : Quiet d d') : Serves s d d' [] := by
  refine ⟨[], ?_, inTurn_nil _, ?_, rfl, ?_, ?_, ?_⟩
  · rw [h.requests, List.map_nil, List.append_nil]
  · exact fun k mem => absurd mem List.not_mem_nil
  · rw [h.functions, List.filterMap_nil, List.append_nil]
  · exact fun x mem => absurd mem List.not_mem_nil
  · exact fun k mem => absurd mem List.not_mem_nil

theorem Serves.trans (h : Serves s d d' xs) (h' : Serves s d' d'' ys) :
    Serves s d d'' (xs ++ ys) := by
  obtain ⟨calls, h⟩ := h
  obtain ⟨more, h'⟩ := h'
  refine ⟨calls ++ more, ?_, h.inTurn.append ?_, ?_, ?_, ?_, ?_, ?_⟩
  · rw [h'.requests, h.requests, List.map_append, List.append_assoc]
  · rw [← h.requests]
    exact h'.inTurn
  · intro k mem
    exact (List.mem_append.mp mem).elim (h.ends k) (h'.ends k)
  · rw [List.map_append, List.filter_append, h.asked, h'.asked]
  · rw [h'.functions, h.functions, List.filterMap_append, List.append_assoc]
  · intro x mem
    exact (List.mem_append.mp mem).elim (h.projections x) (h'.projections x)
  · intro k mem
    exact (List.mem_append.mp mem).elim (h.kept k) (h'.kept k)

theorem Serves.after (h : Quiet d d') (h' : Serves s d' d'' xs) : Serves s d d'' xs :=
  h.serves.trans h'

/-- A direction that may be left out was not asked for. -/
theorem serves_skipped (optional : x.isProjection = false) (skipped : x.asks s = false)
    (h : Quiet d d') : Serves s d d' [x] := by
  obtain ⟨calls, quiet⟩ := h.serves (s := s)
  refine ⟨calls, quiet.requests, quiet.inTurn, quiet.ends, ?_, quiet.functions, ?_, quiet.kept⟩
  · rw [quiet.asked, List.filter_singleton, skipped]
    rfl
  · intro y mem projection
    rw [List.mem_singleton.mp mem, optional] at projection
    cases projection

theorem serves_called {k : Call} (ends : k.direction.ends? s = some (k.source, k.target))
    (accepted : Accepted s k.source k.target)
    (answer : k.answer = s.engine d.requests (k.request s))
    (requests : d'.requests = d.requests ++ [k.request s])
    (functions : d'.functions = d.functions ++ (k.function? s).toList)
    (kept : k.direction.isProjection = true → (k.function? s).isSome = true) :
    Serves s d d' [k.direction] := by
  have asks : k.direction.asks s = true := (asks_iff ends).mpr accepted
  refine ⟨[k], requests, ?_, ?_, ?_, ?_, ?_, ?_⟩
  · intro earlier k' later parts
    cases earlier with
    | nil =>
      obtain ⟨rfl, -⟩ := List.cons.inj parts
      simpa using answer
    | cons first earlier => simp at parts
  · intro k' mem
    obtain rfl := List.mem_singleton.mp mem
    exact ⟨ends, accepted⟩
  · rw [List.filter_singleton, asks]
    rfl
  · rw [functions, List.filterMap_cons]
    cases k.function? s <;> rfl
  · intro y mem _
    rw [List.mem_singleton.mp mem]
    exact asks
  · intro k' mem
    obtain rfl := List.mem_singleton.mp mem
    exact kept

end Accounts

end Toolbridge.Planner
