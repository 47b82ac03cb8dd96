import Toolbridge.Proofs.Conversion.LoopVariables

set_option autoImplicit false

namespace Toolbridge.Conversion

open Go (Expr Stmt TypeCase Assignment ScopedBlock blockScoped casesScoped)

/-- The scope in which the parts of a task are converted. -/
def Task.inner (t : Task) (scope : List String) : List String :=
  t.targetExpr.scopeAfter t.declares scope

/-- A scope from which a task can be done: what it reads and assigns is there, except for the result
that it may declare. -/
structure Ready (t : Task) (scope : List String) : Prop where
  visible : Visible t.depth (t.inner scope)
  source : t.sourceExpr.variables ⊆ scope
  target : t.targetExpr.variables ⊆ t.inner scope
  declared : t.declares = true → t.targetExpr = .var "res"

/-- The code for a task is scoped wherever the task can be done. -/
def Settled (t : Task) (body : List Stmt) : Prop :=
  ∀ scope, Ready t scope → ScopedBlock scope (t.inner scope) body

section Tasks

variable {c : Catalog} {t u : Task} {scope : List String} {route : Route}

theorem Task.subset_inner (t : Task) (scope : List String) : scope ⊆ t.inner scope := by
  unfold Task.inner Expr.scopeAfter
  split
  · exact List.subset_append_right _ _
  · exact List.Subset.refl _

theorem Task.inner_eq (kept : t.declares = false) (scope : List String) :
    t.inner scope = scope := by
  simp [Task.inner, Expr.scopeAfter, kept]

theorem Ready.source_inner (h : Ready t scope) : t.sourceExpr.variables ⊆ t.inner scope :=
  List.Subset.trans h.source (t.subset_inner scope)

theorem Ready.isTarget (h : Ready t scope) : t.targetExpr.isTarget t.declares scope = true := by
  have distinct := h.visible.nodup.of_cons
  have target := h.target
  unfold Task.inner Expr.scopeAfter at distinct target
  unfold Expr.isTarget
  cases declares : t.declares with
  | true =>
    have named : t.targetExpr.isVariable = true := by
      rw [h.declared declares]
      decide
    simpa [declares, named] using distinct
  | false => simpa [declares] using target

theorem Ready.next (h : Ready t scope) (next : Next c t route u) :
    Ready u (route.bases.map (loopVar · t.depth) ++ t.inner scope) where
  visible := by
    rw [Task.inner_eq next.declares, next.depth]
    exact h.visible.introduce route.bases_known route.bases_nodup
  source := by
    intro x mem
    rcases next.reads mem with old | new
    · exact List.mem_append_right _ (h.source_inner old)
    · exact List.mem_append_left _ new
  target := by
    rw [Task.inner_eq next.declares]
    intro x mem
    rcases next.assigns mem with old | new
    · exact List.mem_append_right _ (h.target old)
    · exact List.mem_append_left _ new
  declared := by simp [next.declares]

theorem Ready.introduced (h : Ready t scope) (route : Route) :
    (route.bases.map (loopVar · t.depth) ++ t.inner scope).Nodup :=
  (h.visible.introduce route.bases_known route.bases_nodup).nodup.of_cons

end Tasks

section Level

variable {Q : Task → List Stmt → Prop} {f : Frame} {t : Task} {scope : List String}
  {left right fields members : List Member} {parts : ObjectParts} {cases' : List TypeCase}
  {body : List Stmt} {a b : Attribute} {e e' : Expr}

@[simp] theorem variables_cast : (f.cast a b e).variables = e.variables := by
  unfold Frame.cast
  split <;> rfl

theorem assigned_scoped (value : e.variables ⊆ scope) (target : e'.variables ⊆ scope) :
    Go.assignmentsScoped [⟨false, e', e⟩] scope = true := by
  simp [Go.assignmentsScoped, Assignment.isScoped, Expr.isTarget, value, target]

/-- A value is copied through a temporary, which is gone behind its block. -/
theorem copied_scoped (source : e.variables ⊆ scope) (target : e'.variables ⊆ scope)
    (fresh : "tmp" ∉ scope) (distinct : scope.Nodup) :
    Go.assignmentsScoped (copyThroughPointer e' e) scope = true := by
  have temporary : (Expr.var "tmp").variables = ["tmp"] := by decide
  have named : (Expr.var "tmp").isVariable = true := by decide
  have address : (Expr.addressOf (.var "tmp")).variables = ["tmp"] := by decide
  have later := List.subset_cons_of_subset "tmp" target
  simp [copyThroughPointer, Go.assignmentsScoped, Assignment.isScoped, Expr.isTarget,
    Expr.scopeAfter, temporary, named, address, source, later, fresh, distinct]

theorem primitiveField_scoped (sourcePointer targetPointer : Bool) (goField : String)
    (source : e.variables ⊆ scope) (target : e'.variables ⊆ scope)
    (distinct : ("tmp" :: scope).Nodup) :
    (∀ p ∈ (primitiveField f sourcePointer targetPointer a b goField e e').fields,
      p.2.variables = e.variables) ∧
    ScopedBlock scope scope
      (primitiveField f sourcePointer targetPointer a b goField e e').after := by
  obtain ⟨fresh, distinct⟩ := List.nodup_cons.mp distinct
  have pointee : (f.cast a b (.deref e)).variables ⊆ scope := by
    simpa [Expr.variables] using source
  have value : (f.cast a b e).variables ⊆ scope := by simpa using source
  have copied := copied_scoped pointee target fresh distinct
  have copied' := copied_scoped value target fresh distinct
  unfold primitiveField
  cases sourcePointer <;> cases targetPointer <;> dsimp only
  · exact ⟨by simp, .nil _⟩
  · split
    · exact ⟨by simp [Expr.variables], .nil _⟩
    · exact ⟨by simp, .single copied' rfl⟩
  · have checked : (Stmt.ifNotNil e [⟨false, e', f.cast a b (.deref e)⟩]).isScoped scope = true := by
      simp [Stmt.isScoped, source, assigned_scoped pointee target]
    have literal : ∀ text, (Stmt.ifNil e [⟨false, e', .literal text⟩]).isScoped scope = true := by
      intro text
      simp [Stmt.isScoped, source, assigned_scoped (e := .literal text) (by simp [Expr.variables])
        target]
    refine ⟨by simp, .cons checked ?_⟩
    split
    · exact .single (literal _) rfl
    · exact .nil _
  · split
    · exact ⟨by simp, .nil _⟩
    · refine ⟨by simp, .single ?_ rfl⟩
      simpa [Stmt.isScoped, source] using copied

theorem nestedField_scoped (source : e.variables ⊆ scope)
    (inner : ScopedBlock scope scope body) : ScopedBlock scope scope (nestedField f a e body) := by
  unfold nestedField
  split
  · exact inner
  · refine .single ?_ rfl
    simp [Stmt.isScoped, source, inner.inside]

theorem fields_scoped (ready : Ready t scope)
    (below : ∀ route u inner, Next f.catalog t route u → Q u inner → Settled u inner)
    (source : (f.catalog.resolve t.source).type = some (.object left))
    (target : (f.catalog.resolve t.target).type = some (.object right)) (sub : fields ⊆ right)
    (code : FieldsCode Q f t left fields parts) :
    (∀ p ∈ parts.fields, p.2.variables ⊆ t.sourceExpr.variables) ∧
      ScopedBlock (t.inner scope) (t.inner scope) parts.after := by
  induction code with
  | nil => exact ⟨nofun, .nil _⟩
  | absent _ _ ih => exact ih fun m later => sub (List.mem_cons_of_mem _ later)
  | @primitive rest x y parts found _ _ ih =>
    obtain ⟨others, after⟩ := ih fun m later => sub (List.mem_cons_of_mem _ later)
    have reads : (t.field x y).sourceExpr.variables ⊆ t.inner scope := ready.source_inner
    have assigns : (t.field x y).targetExpr.variables ⊆ t.inner scope := ready.target
    obtain ⟨values, statements⟩ := primitiveField_scoped (f := f) (a := x.attr) (b := y.attr)
      (f.catalog.isPrimitivePointer (f.catalog.resolve t.source) x.name f.source.useDefault)
      (f.catalog.isPrimitivePointer (f.catalog.resolve t.target) y.name f.target.useDefault)
      (Go.identifier true y.name) reads assigns ready.visible.nodup
    refine ⟨fun p mem => ?_, statements.append after⟩
    rcases List.mem_append.mp mem with own | later
    · rw [values p own]
      exact List.Subset.refl _
    · exact others p later
  | @compound rest x y parts inner found compound here _ ih =>
    obtain ⟨others, after⟩ := ih fun m later => sub (List.mem_cons_of_mem _ later)
    have next : Next f.catalog t .field (t.field x y) :=
      .field source target (sub List.mem_cons_self) found compound
    have ready' := ready.next next
    have own := below _ _ _ next here _ ready'
    rw [Task.inner_eq next.declares] at own
    exact ⟨others, (nestedField_scoped ready'.source own).append after⟩

theorem cases_scoped (ready : Ready t scope)
    (below : ∀ route u inner, Next f.catalog t route u → Q u inner → Settled u inner)
    (source : (f.catalog.resolve t.source).type = some (.union left))
    (target : (f.catalog.resolve t.target).type = some (.union right)) (sub : members ⊆ left)
    (code : CasesCode Q f t right members cases') :
    casesScoped cases' (loopVar "actual" t.depth :: t.inner scope) = true := by
  induction code with
  | nil => rfl
  | @cons rest x y body cases' found here _ ih =>
    have next : Next f.catalog t .member (t.member x y) :=
      .member source target (sub List.mem_cons_self) found
    have own := (below _ _ _ next here _ (ready.next next)).inside
    have others := ih fun m later => sub (List.mem_cons_of_mem _ later)
    rw [casesScoped, others, Bool.and_true]
    exact own

theorem key_scoped {depth : Nat} (distinct : (loopVar "tk" depth :: scope).Nodup)
    (key : loopVar "key" depth ∈ scope) :
    let first := [⟨true, .var (loopVar "tk" depth), f.cast a b (.var (loopVar "key" depth))⟩]
    Go.assignmentsScoped first scope = true ∧
      Go.assignmentsScope first scope = loopVar "tk" depth :: scope := by
  have source : (Expr.var (loopVar "key" depth)).variables = [loopVar "key" depth] :=
    variables_loopVar (by decide) depth
  have target : (Expr.var (loopVar "tk" depth)).variables = [loopVar "tk" depth] :=
    variables_loopVar (by decide) depth
  have named : (Expr.var (loopVar "tk" depth)).isVariable = true :=
    isVariable_loopVar (by decide) depth
  constructor
  · simp [Go.assignmentsScoped, Assignment.isScoped, Expr.isTarget, source, target, named, key,
      distinct]
  · simp [Go.assignmentsScope, Expr.scopeAfter, target]

/-- One level: the target is assigned to or declared, and what goes into its parts stays inside. -/
theorem settled_of_code
    (below : ∀ route u inner, Next f.catalog t route u → Q u inner → Settled u inner)
    (code : NodeCode Q f t body) : Settled t body := by
  intro scope ready
  have target := ready.isTarget
  have opens : ∀ value : Expr, value.variables = t.sourceExpr.variables →
      (Stmt.assign ⟨t.declares, t.targetExpr, value⟩).isScoped scope = true := by
    intro value same
    simp [Stmt.isScoped, Assignment.isScoped, target, same, ready.source]
  have subject := ready.source_inner
  cases code with
  | call called => exact .single (opens _ rfl) rfl
  | primitive _ _ _ => exact .single (opens _ variables_cast) rfl
  | object _ source target' fields =>
    obtain ⟨values, after⟩ :=
      fields_scoped ready below source target' (List.Subset.refl _) fields
    refine .cons ?_ after
    simp only [Stmt.isScoped, target, Bool.and_true, List.all_eq_true, Expr.isScoped_iff]
    exact fun p mem => List.Subset.trans (values p mem) ready.source
  | array _ source target' element =>
    have next := Next.element source target'
    have own := (below _ _ _ next element _ (ready.next next)).inside
    have distinct := ready.introduced .element
    simp only [Route.bases, List.map_cons, List.map_nil, List.cons_append, List.nil_append]
      at own distinct
    refine .cons (opens _ rfl) (.single ?_ rfl)
    change Stmt.isScoped _ (t.inner scope) = true
    simp only [Stmt.isScoped, Bool.and_eq_true, decide_eq_true_eq, Expr.isScoped_iff]
    exact ⟨⟨⟨subject, distinct⟩, rfl⟩, own⟩
  | @map leftKey x rightKey y body _ source target' value =>
    have next := Next.value source target'
    have own := (below _ _ _ next value _ (ready.next next)).inside
    have distinct := ready.introduced .value
    simp only [Route.bases, List.map_cons, List.map_nil, List.cons_append, List.nil_append]
      at own distinct
    refine .cons (opens _ rfl) (.single ?_ rfl)
    change Stmt.isScoped _ (t.inner scope) = true
    simp only [Stmt.isScoped, Bool.and_eq_true, decide_eq_true_eq, Expr.isScoped_iff]
    obtain ⟨first, leaves⟩ := key_scoped (f := f) (a := leftKey) (b := rightKey) distinct (by simp)
    refine ⟨⟨⟨subject, distinct.of_cons⟩, first⟩, ?_⟩
    rw [leaves]
    exact own
  | union _ source target' members =>
    have within := cases_scoped ready below source target' (List.Subset.refl _) members
    have distinct := ready.introduced .member
    simp only [Route.bases, List.map_cons, List.map_nil, List.cons_append, List.nil_append]
      at distinct
    have declared : ScopedBlock scope (t.inner scope)
        (if t.declares then [.declare t.targetExpr (f.targetRef t.target)] else []) := by
      cases declares : t.declares with
      | true =>
        rw [declares] at target
        refine .single target ?_
        simp [Stmt.scopeAfter, Task.inner, declares]
      | false =>
        rw [Task.inner_eq declares]
        exact .nil _
    refine declared.append (.single ?_ rfl)
    simp only [Stmt.isScoped, Bool.and_eq_true, decide_eq_true_eq, Expr.isScoped_iff]
    exact ⟨⟨subject, distinct⟩, within⟩

theorem settled_of_emits (emits : Emits f t body) : Settled t body := by
  obtain ⟨depth, gets⟩ := emits
  induction depth generalizing t body with
  | zero =>
    obtain ⟨_, _, run⟩ := gets
    cases run
  | succ depth ih =>
    obtain ⟨_, _, run⟩ := gets
    exact settled_of_code (fun _ _ _ _ => ih) (nodeCode_of_run run)

end Level

/-- What can be seen around a conversion in its body. -/
def around (chain : List Step) (t : Task) : List String :=
  introduced chain ++ if t.declares then ["v"] else ["res", "v"]

/-- No variable that a conversion introduces takes the place of one that is around it. -/
structure NothingCaptured (c : Catalog) (r : ConversionRequest) : Prop where
  /-- Nothing is converted but what the conversion comes to. -/
  reach : ∀ chain t convert convert', Met c (taskOf r) chain t →
    (∀ chain u, Met c (taskOf r) chain u → convert u = convert' u) →
      convertNode (frameOf c r) convert t = convertNode (frameOf c r) convert' t
  starts : ∀ t, Met c (taskOf r) [] t →
    t = taskOf r ∨ ∃ x y, t = ⟨x, y, .var "v", .var "res", true, 0, .helper⟩
  clear : ∀ chain t, Met c (taskOf r) chain t → Clear chain t
  placed : ∀ chain t body, Met c (taskOf r) chain t → Emits (frameOf c r) t body →
    blockScoped body (around chain t) = true
  body : ∀ code, build c r = .ok code → ScopedBlock ["v"] ["res", "v"] code.body
  helpers : ∀ code, build c r = .ok code → ∀ h ∈ code.helpers,
    ScopedBlock ["v"] ["res", "v"] h.body ∧ ∃ x y body,
      Met c (taskOf r) [] (Contract.helperTask x y) ∧
        Emits (frameOf c r) (Contract.helperTask x y) body ∧ h.body = guarded (frameOf c r) x body

structure Starts (t : Task) : Prop where
  source : t.sourceExpr.variables = ["v"]
  target : t.targetExpr = .var "res"
  declares : t.declares = true

section Whole

variable {c : Catalog} {r : ConversionRequest} {chain : List Step} {t start : Task} {f : Frame}
  {body : List Stmt}

theorem starts_helperTask (x y : Attribute) : Starts (Contract.helperTask x y) := ⟨rfl, rfl, rfl⟩

theorem starts_taskOf (source : r.sourceVar = "v" ∨ r.sourceVar = "(*v)")
    (target : r.targetVar = "res") : Starts (taskOf r) where
  source := by
    change [Go.variableIn r.sourceVar] = ["v"]
    rcases source with same | same <;> rw [same] <;> decide
  target := congrArg Expr.var target
  declares := rfl

theorem Starts.clear (h : Starts t) : Clear [] t :=
  clear_start h.source (by rw [h.target]; decide)

theorem Starts.of_declares (h : Starts start) (met : Met c start chain t)
    (declares : t.declares = true) : chain = [] ∧ Starts t := by
  cases met with
  | start => exact ⟨rfl, h⟩
  | part _ _ next => simp [next.declares] at declares
  | helper _ _ => exact ⟨rfl, starts_helperTask _ _⟩

theorem Starts.inner (h : Starts t) : t.inner ["v"] = ["res", "v"] := by
  unfold Task.inner Expr.scopeAfter
  rw [h.declares, h.target]
  decide

theorem Starts.ready (h : Starts t) : Ready t ["v"] where
  visible := by
    rw [h.inner]
    exact h.clear.visible
  source := by simp [h.source]
  target := by
    rw [h.inner, h.target]
    decide
  declared := fun _ => h.target

theorem Clear.ready (clear : Clear chain t) (kept : t.declares = false) :
    Ready t (introduced chain ++ ["res", "v"]) where
  visible := by
    rw [Task.inner_eq kept]
    exact clear.visible
  source := fun x mem => seen_around (by simp) (clear.reads x mem)
  target := by
    rw [Task.inner_eq kept]
    exact fun x mem => seen_around (by simp) (clear.assigns x mem)
  declared := by simp [kept]

theorem Starts.ready_of_met (h : Starts start) (met : Met c start chain t) :
    Ready t (around chain t) := by
  unfold around
  cases declares : t.declares with
  | true =>
    obtain ⟨rfl, starts⟩ := h.of_declares met declares
    exact starts.ready
  | false => exact (clear_of_met h.clear met).ready declares

theorem Starts.scoped_of_emits (h : Starts t) (emits : Emits f t body) :
    ScopedBlock ["v"] ["res", "v"] body := by
  have settled := settled_of_emits emits _ h.ready
  rwa [h.inner] at settled

theorem guarded_scoped {x : Attribute} (inner : ScopedBlock ["v"] ["res", "v"] body) :
    ScopedBlock ["v"] ["res", "v"] (guarded f x body) := by
  unfold guarded
  split
  · exact .cons rfl inner
  · exact inner

end Whole

/-- Whatever is nested in it, a conversion reads and assigns through its own variables only, and
those that it introduces hide none of them. -/
theorem variables_never_captured {c : Catalog} {r : ConversionRequest}
    (source : r.sourceVar = "v" ∨ r.sourceVar = "(*v)") (target : r.targetVar = "res") :
    NothingCaptured c r := by
  have starts := starts_taskOf source target
  constructor
  · intro chain t convert convert' met agree
    exact convertNode_met met agree
  · intro t met
    exact start_of_met met
  · intro chain t met
    exact clear_of_met starts.clear met
  · intro chain t body met emits
    exact (settled_of_emits emits _ (starts.ready_of_met met)).inside
  · intro code built
    obtain ⟨emitted, run, -⟩ := build_eq_ok.mp built
    exact starts.scoped_of_emits ⟨_, _, _, run⟩
  · intro code built h mem
    obtain ⟨x, y, place, converts⟩ := (complete_of_build built).made h mem
    obtain ⟨depth, body, s, s', run, guards⟩ := converts.body
    have emits : Emits (frameOf c r) (Contract.helperTask x y) body := ⟨depth, s, s', run⟩
    refine ⟨?_, x, y, body, met_of_place place, emits, guards⟩
    rw [guards]
    exact guarded_scoped ((starts_helperTask x y).scoped_of_emits emits)

/-! A list of maps of notes, each of which is a text or a document with pages. -/
namespace Nested

def text : Attribute := .ofType (.primitive .string)

def page : Attribute := .ofType (.object [⟨"lines", .ofType (.array text)⟩])

def catalog : Catalog :=
  ⟨[{ name := "Doc", body := { type := some (.object [⟨"pages", .ofType (.array page)⟩]) } }]⟩

def member : Member := ⟨"doc", .ofType (.user 0)⟩

def note : Attribute := .ofType (.union [⟨"text", text⟩, member])

def notesByKey : Attribute := .ofType (.map text note)

def notes : Attribute := .ofType (.array notesByKey)

def request : ConversionRequest :=
  { source := notes, target := notes, sourceVar := "(*v)", targetVar := "res",
    sourceSide := ⟨"alpha", true⟩, targetSide := ⟨"", true⟩, helperPrefix := "",
    byReference := true }

def document : Task :=
  (((taskOf request).element notesByKey notesByKey).value note note).member member member

theorem document_met :
    Met catalog (taskOf request) [⟨2, .member⟩, ⟨1, .value⟩, ⟨0, .element⟩] document := by
  have element : Met catalog (taskOf request) [⟨0, .element⟩]
      ((taskOf request).element notesByKey notesByKey) := .part .start nofun (.element rfl rfl)
  have value : Met catalog (taskOf request) [⟨1, .value⟩, ⟨0, .element⟩]
      (((taskOf request).element notesByKey notesByKey).value note note) :=
    .part element (fun called => nomatch called.needed.source) (.value rfl rfl)
  have last : member ∈ [⟨"text", text⟩, member] := by simp
  exact .part value (fun called => nomatch called.needed.source) (.member rfl rfl last rfl)

theorem notes_scoped :
    (request.sourceVar = "v" ∨ request.sourceVar = "(*v)") ∧ request.targetVar = "res" ∧
      document.sourceExpr.text = "actual2" ∧ document.targetExpr.text = "res[i][tk1]" ∧
      Clear [⟨2, .member⟩, ⟨1, .value⟩, ⟨0, .element⟩] document ∧
      ∃ code, build catalog request = .ok code ∧
        code.helpers.map (·.name) = ["transformAlphaDocToDoc"] ∧
        ScopedBlock ["v"] ["res", "v"] code.body ∧
        ∀ h ∈ code.helpers, ScopedBlock ["v"] ["res", "v"] h.body := by
  have source : request.sourceVar = "v" ∨ request.sourceVar = "(*v)" := .inr rfl
  have target : request.targetVar = "res" := rfl
  have captured := variables_never_captured (c := catalog) source target
  have written : (build catalog request).map (·.helpers.map (·.name)) =
      .ok ["transformAlphaDocToDoc"] := by decide +kernel
  cases built : build catalog request with
  | error e =>
    rw [built] at written
    cases written
  | ok code =>
    rw [built] at written
    refine ⟨source, target, by decide +kernel, by decide +kernel, captured.clear _ _ document_met,
      code, rfl, Except.ok.inj written, captured.body code built, fun h mem => ?_⟩
    exact (captured.helpers code built h mem).1

end Nested

end Toolbridge.Conversion
