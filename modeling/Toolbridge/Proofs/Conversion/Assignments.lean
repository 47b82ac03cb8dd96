import Toolbridge.Proofs.Conversion.Helpers
import Toolbridge.Proofs.Conversion.Levels
import Toolbridge.Proofs.Go.Assigned
import Toolbridge.Proofs.Plan.NilGuards

set_option autoImplicit false

namespace Toolbridge.Conversion

open Go (Expr Stmt TypeCase blockAssigned casesAssigned AssignedWhole)

/-- Nothing is assigned: two unions in place without members, or with such members only. -/
inductive Idle (c : Catalog) : Attribute → Attribute → Prop
  | union {a b : Attribute} {left right : List Member} (inPlace : ¬ NeedsHelper c a b)
      (source : (c.resolve a).type = some (.union left))
      (target : (c.resolve b).type = some (.union right))
      (members : ∀ x ∈ left, ∀ y, Members.find? right x.name = some y → Idle c x.attr y.attr) :
      Idle c a b

/-- The literal of the object has the field: it is behind a pointer on neither side, or the target
has a pointer to what is read. -/
def InLiteral (f : Frame) (a b : Attribute) (x y : Member) : Prop :=
  let sourcePointer :=
    f.catalog.isPrimitivePointer (f.catalog.resolve a) x.name f.source.useDefault
  let targetPointer :=
    f.catalog.isPrimitivePointer (f.catalog.resolve b) y.name f.target.useDefault
  (sourcePointer = false ∧ targetPointer = false) ∨
    (targetPointer = true ∧ f.sourceRef x.attr = f.targetRef y.attr)

/-- A nested target that is made at once, by statements that assign to none of its parts. -/
inductive AtOnce (f : Frame) : Attribute → Attribute → Prop
  | call {a b : Attribute} (needed : NeedsHelper f.catalog a b) : AtOnce f a b
  | primitive {a b : Attribute} {p q : Primitive}
      (source : (f.catalog.resolve a).type = some (.primitive p))
      (target : (f.catalog.resolve b).type = some (.primitive q)) : AtOnce f a b
  | object {a b : Attribute} {left right : List Member} (inPlace : ¬ NeedsHelper f.catalog a b)
      (source : (f.catalog.resolve a).type = some (.object left))
      (target : (f.catalog.resolve b).type = some (.object right))
      (fields : ∀ y ∈ right, ∀ x, Members.find? left y.name = some x →
        (BothPrimitive f.catalog x.attr y.attr ∧ InLiteral f a b x y) ∨
          Idle f.catalog x.attr y.attr) : AtOnce f a b
  | array {a b x y : Attribute} (inPlace : ¬ NeedsHelper f.catalog a b)
      (source : (f.catalog.resolve a).type = some (.array x))
      (target : (f.catalog.resolve b).type = some (.array y)) (element : Idle f.catalog x y) :
      AtOnce f a b
  | map {a b leftKey x rightKey y : Attribute} (inPlace : ¬ NeedsHelper f.catalog a b)
      (source : (f.catalog.resolve a).type = some (.map leftKey x))
      (target : (f.catalog.resolve b).type = some (.map rightKey y))
      (value : Idle f.catalog x y) : AtOnce f a b
  | union {a b : Attribute} {left right : List Member} (inPlace : ¬ NeedsHelper f.catalog a b)
      (source : (f.catalog.resolve a).type = some (.union left))
      (target : (f.catalog.resolve b).type = some (.union right))
      (members : ∀ x ∈ left, ∀ y, Members.find? right x.name = some y →
        AtOnce f x.attr y.attr) : AtOnce f a b

/-- What it takes that values of the two shapes are made at once in place. -/
def ShapesAtOnce (f : Frame) (a b : Attribute) : DataType → DataType → Prop
  | .primitive _, .primitive _ => True
  | .object left, .object right => ∀ y ∈ right, ∀ x, Members.find? left y.name = some x →
      (BothPrimitive f.catalog x.attr y.attr ∧ InLiteral f a b x y) ∨ Idle f.catalog x.attr y.attr
  | .array x, .array y => Idle f.catalog x y
  | .map _ x, .map _ y => Idle f.catalog x y
  | .union left, .union right => ∀ x ∈ left, ∀ y, Members.find? right x.name = some y →
      AtOnce f x.attr y.attr
  | _, _ => False

theorem AtOnce.shapes {f : Frame} {a b : Attribute} {s d : DataType} (once : AtOnce f a b)
    (inPlace : ¬ NeedsHelper f.catalog a b) (source : (f.catalog.resolve a).type = some s)
    (target : (f.catalog.resolve b).type = some d) : ShapesAtOnce f a b s d := by
  cases once with
  | call needed => exact absurd needed inPlace
  | primitive source' target' =>
    cases source.symm.trans source'
    cases target.symm.trans target'
    exact trivial
  | object _ source' target' fields =>
    cases source.symm.trans source'
    cases target.symm.trans target'
    exact fields
  | array _ source' target' element =>
    cases source.symm.trans source'
    cases target.symm.trans target'
    exact element
  | map _ source' target' value =>
    cases source.symm.trans source'
    cases target.symm.trans target'
    exact value
  | union _ source' target' members =>
    cases source.symm.trans source'
    cases target.symm.trans target'
    exact members

section Parts

variable {Q : Task → List Stmt → Prop} {f : Frame} {t : Task} {left right fields : List Member}
  {parts : ObjectParts} {cases' : List TypeCase} {x y : Member} {e : Expr} {body : List Stmt}

theorem primitiveField_after (f : Frame) (sourcePointer targetPointer : Bool) (a b : Attribute)
    (goField : String) (source target : Expr) :
    let parts := primitiveField f sourcePointer targetPointer a b goField source target
    if (sourcePointer = false ∧ targetPointer = false) ∨
      (targetPointer = true ∧ f.sourceRef a = f.targetRef b)
    then parts.after = [] else target ∈ blockAssigned parts.after := by
  unfold primitiveField
  by_cases same : f.sourceRef a = f.targetRef b <;> cases sourcePointer <;> cases targetPointer <;>
    simp [same, blockAssigned, Stmt.assigned, Go.assignmentsAssigned, copyThroughPointer]

theorem primitiveParts_of_inLiteral (literal : InLiteral f t.source t.target x y) :
    (primitiveParts f t x y).after = [] :=
  (if_pos literal).mp (primitiveField_after f _ _ x.attr y.attr _ _ _)

theorem assigned_primitiveParts (statement : ¬ InLiteral f t.source t.target x y) :
    (t.field x y).targetExpr ∈ blockAssigned (primitiveParts f t x y).after :=
  (if_neg statement).mp (primitiveField_after f _ _ x.attr y.attr _ _ _)

theorem blockAssigned_nestedField (f : Frame) (a : Attribute) (e : Expr) (body : List Stmt) :
    blockAssigned (nestedField f a e body) = blockAssigned body := by
  unfold nestedField
  split
  · rfl
  · simp [blockAssigned, Stmt.assigned]

theorem Idle.unions {c : Catalog} {a b : Attribute} (idle : Idle c a b) :
    ∃ left, (c.resolve a).type = some (.union left) := by
  cases idle with
  | union _ source _ _ => exact ⟨_, source⟩

theorem Idle.not_called {c : Catalog} (idle : Idle c t.source t.target) : ¬ t.Called c := by
  cases idle with
  | union inPlace _ _ _ => exact fun called => inPlace called.needed

theorem Idle.compound {c : Catalog} {a b : Attribute} (idle : Idle c a b) :
    ¬ BothPrimitive c a b := by
  obtain ⟨left, union⟩ := idle.unions
  rintro ⟨source, -⟩
  unfold Catalog.resolvedPrimitive? Attribute.primitive? at source
  rw [union] at source
  cases source

def IdleOrAssigned (c : Catalog) (t : Task) (body : List Stmt) : Prop :=
  (Idle c t.source t.target ∧ blockAssigned body = []) ∨
    (¬ Idle c t.source t.target ∧ t.targetExpr ∈ blockAssigned body)

/-- No part of the target is assigned to just if it is made at once. -/
def WholeAtOnce (f : Frame) (t : Task) (body : List Stmt) : Prop :=
  AssignedWhole t.targetExpr body ↔ AtOnce f t.source t.target

theorem assigned_union (pre : List Stmt) (silent : blockAssigned pre = []) (bound : String)
    (subject : Expr) (cases' : List TypeCase) :
    blockAssigned (pre ++ [.typeSwitch bound subject cases']) = casesAssigned cases' := by
  simp [silent, blockAssigned, Stmt.assigned]

theorem assigned_declared (declares : Bool) (target : Expr) (type : String) :
    blockAssigned (if declares then [.declare target type] else []) = [] := by
  cases declares <;> rfl

theorem idleOrAssigned_of_code (nested : t.position = .nested)
    (below : ∀ u inner, u.position = .nested → Q u inner → IdleOrAssigned f.catalog u inner)
    (code : NodeCode Q f t body) : IdleOrAssigned f.catalog t body := by
  have notIdle : (∀ left, (f.catalog.resolve t.source).type ≠ some (.union left)) →
      t.targetExpr ∈ blockAssigned body → IdleOrAssigned f.catalog t body :=
    fun other assigned => .inr ⟨fun idle => idle.unions.elim other, assigned⟩
  cases code with
  | call called => exact .inr ⟨fun idle => idle.not_called called, List.mem_cons_self⟩
  | primitive _ source _ =>
    exact notIdle (fun _ union => nomatch source.symm.trans union) List.mem_cons_self
  | object _ source _ _ =>
    exact notIdle (fun _ union => nomatch source.symm.trans union) List.mem_cons_self
  | array _ source _ _ =>
    exact notIdle (fun _ union => nomatch source.symm.trans union) List.mem_cons_self
  | map _ source _ _ =>
    exact notIdle (fun _ union => nomatch source.symm.trans union) List.mem_cons_self
  | @union left right cases' inPlace source target members =>
    rw [IdleOrAssigned, assigned_union _ (assigned_declared _ _ _)]
    by_cases idle : Idle f.catalog t.source t.target
    · refine .inl ⟨idle, List.eq_nil_iff_forall_not_mem.mpr fun e mem => ?_⟩
      obtain ⟨k, here, assigned⟩ := Go.mem_casesAssigned.mp mem
      obtain ⟨x, memX, y, found, inner⟩ := members.of_mem here
      cases idle with
      | union _ source' target' silent =>
        cases source.symm.trans source'
        cases target.symm.trans target'
        rcases below _ _ rfl inner with ⟨-, nothing⟩ | ⟨busy, -⟩
        · rw [nothing] at assigned
          cases assigned
        · exact busy (silent x memX y found)
    · refine .inr ⟨idle, Go.mem_casesAssigned.mpr ?_⟩
      have working : ∃ x ∈ left, ∃ y, Members.find? right x.name = some y ∧
          ¬ Idle f.catalog x.attr y.attr := by
        by_contra allIdle
        refine idle (.union (fun needed => inPlace ⟨nested, needed⟩) source target ?_)
        exact fun x mem y found => by_contra fun busy => allIdle ⟨x, mem, y, found, busy⟩
      obtain ⟨x, mem, y, found, busy⟩ := working
      obtain ⟨inner, code, stands⟩ := members.stands mem found
      rcases below _ _ rfl code with ⟨silent, -⟩ | ⟨-, assigned⟩
      · exact absurd silent busy
      · exact ⟨_, stands, assigned⟩

theorem assigned_of_busy (settled : IdleOrAssigned f.catalog t body)
    (busy : ¬ Idle f.catalog t.source t.target) : t.targetExpr ∈ blockAssigned body :=
  (settled.resolve_left fun idle => busy idle.1).2

theorem assigned_of_idle (settled : IdleOrAssigned f.catalog t body)
    (idle : Idle f.catalog t.source t.target) : blockAssigned body = [] :=
  (settled.resolve_right fun busy => busy.1 idle).2

theorem wholeAtOnce_object (inPlace : ¬ NeedsHelper f.catalog t.source t.target)
    (source : (f.catalog.resolve t.source).type = some (.object left))
    (target : (f.catalog.resolve t.target).type = some (.object right))
    (code : FieldsCode Q f t left right parts)
    (idle : ∀ u inner, u.position = .nested → Q u inner → IdleOrAssigned f.catalog u inner)
    (opening : Stmt) (opens : opening.assigned = [t.targetExpr]) :
    WholeAtOnce f t (opening :: parts.after) := by
  have assigned : ∀ {e}, e ∈ blockAssigned (opening :: parts.after) ↔
      e = t.targetExpr ∨ e ∈ blockAssigned parts.after := by
    intro e
    rw [blockAssigned, opens, List.mem_append, List.mem_singleton]
  constructor
  · intro whole
    refine .object inPlace source target fun y mem x found => ?_
    have untouched : (t.field x y).targetExpr ∉ blockAssigned parts.after := fun here =>
      whole _ (assigned.mpr (.inr here)) (.inl rfl)
    by_cases both : BothPrimitive f.catalog x.attr y.attr
    · refine .inl ⟨both, by_contra fun statement => ?_⟩
      have stands := code.primitive_stands mem found both
      exact untouched (Go.blockAssigned_subset stands.subset (assigned_primitiveParts statement))
    · refine .inr (by_contra fun busy => ?_)
      obtain ⟨inner, here, stands⟩ := code.compound_stands mem found both
      have touched := assigned_of_busy (idle _ _ rfl here) busy
      rw [← blockAssigned_nestedField f y.attr (t.field x y).sourceExpr] at touched
      exact untouched (Go.blockAssigned_subset stands.subset touched)
  · intro once e mem
    rcases assigned.mp mem with rfl | mem
    · exact Expr.not_beneath_self _
    obtain ⟨stmt, here, mem⟩ := Go.mem_blockAssigned.mp mem
    have fields := once.shapes inPlace source target
    obtain ⟨y, memY, x, found, ⟨both, own⟩ | ⟨compound, inner, code, own⟩⟩ := code.mem_after here
    · rcases fields y memY x found with ⟨-, literal⟩ | silent
      · rw [primitiveParts_of_inLiteral literal] at own
        cases own
      · exact absurd both silent.compound
    · rcases fields y memY x found with ⟨both, -⟩ | silent
      · exact absurd both compound
      · have nothing := assigned_of_idle (idle _ _ rfl code) silent
        have touched := Go.mem_blockAssigned.mpr ⟨stmt, own, mem⟩
        rw [blockAssigned_nestedField, nothing] at touched
        cases touched

theorem assignedWhole_filled {u : Task} {inner : List Stmt} {base : Expr}
    (settled : IdleOrAssigned f.catalog u inner) (beneath : base.Beneath u.targetExpr)
    (declares : Bool) (made subject : Expr) (key value : String) (first : List Go.Assignment)
    (locals : ∀ e ∈ Go.assignmentsAssigned first, ¬ base.Beneath e) :
    AssignedWhole base [.assign ⟨declares, base, made⟩, .range key value subject first inner] ↔
      Idle f.catalog u.source u.target := by
  have assigned : ∀ {e}, e ∈ blockAssigned [.assign ⟨declares, base, made⟩,
      .range key value subject first inner] ↔
        e = base ∨ e ∈ Go.assignmentsAssigned first ∨ e ∈ blockAssigned inner := by
    simp [blockAssigned, Stmt.assigned]
  constructor
  · intro whole
    by_contra busy
    exact whole _ (assigned.mpr (.inr (.inr (assigned_of_busy settled busy)))) beneath
  · intro idle e mem
    rcases assigned.mp mem with rfl | mem | mem
    · exact Expr.not_beneath_self _
    · exact locals e mem
    · rw [assigned_of_idle settled idle] at mem
      cases mem

theorem wholeAtOnce_union (inPlace : ¬ NeedsHelper f.catalog t.source t.target)
    (source : (f.catalog.resolve t.source).type = some (.union left))
    (target : (f.catalog.resolve t.target).type = some (.union right))
    (code : CasesCode Q f t right left cases')
    (below : ∀ u inner, u.position = .nested → Q u inner → WholeAtOnce f u inner)
    (assigned : blockAssigned body = casesAssigned cases') : WholeAtOnce f t body := by
  constructor
  · intro whole
    refine .union inPlace source target fun x mem y found => ?_
    obtain ⟨inner, here, stands⟩ := code.stands mem found
    refine (below _ _ rfl here).mp fun e touched => whole e ?_
    rw [assigned]
    exact Go.mem_casesAssigned.mpr ⟨_, stands, touched⟩
  · intro once e mem
    rw [assigned] at mem
    obtain ⟨k, here, touched⟩ := Go.mem_casesAssigned.mp mem
    obtain ⟨x, memX, y, found, inner⟩ := code.of_mem here
    have members := once.shapes inPlace source target
    exact (below _ _ rfl inner).mpr (members x memX y found) e touched

theorem wholeAtOnce_of_code (nested : t.position = .nested)
    (idle : ∀ u inner, u.position = .nested → Q u inner → IdleOrAssigned f.catalog u inner)
    (below : ∀ u inner, u.position = .nested → Q u inner → WholeAtOnce f u inner)
    (code : NodeCode Q f t body) : WholeAtOnce f t body := by
  have single : ∀ value,
      AssignedWhole t.targetExpr [.assign ⟨t.declares, t.targetExpr, value⟩] := by
    intro value e mem
    rw [List.mem_singleton.mp mem]
    exact Expr.not_beneath_self _
  have outside : ¬ t.Called f.catalog → ¬ NeedsHelper f.catalog t.source t.target :=
    fun inPlace needed => inPlace ⟨nested, needed⟩
  cases code with
  | call called => exact iff_of_true (single _) (.call called.needed)
  | primitive _ source target => exact iff_of_true (single _) (.primitive source target)
  | object inPlace source target fields =>
    exact wholeAtOnce_object (outside inPlace) source target fields idle _ rfl
  | array inPlace source target element =>
    refine (assignedWhole_filled (idle _ _ rfl element) (.inl rfl) _ _ _ _ _ [] nofun).trans ?_
    exact ⟨.array (outside inPlace) source target,
      fun once => once.shapes (outside inPlace) source target⟩
  | map inPlace source target value =>
    refine (assignedWhole_filled (idle _ _ rfl value) (.inl rfl) _ _ _ _ _ _ ?_).trans ?_
    · intro e mem
      rw [List.mem_singleton.mp mem]
      exact id
    · exact ⟨.map (outside inPlace) source target,
        fun once => once.shapes (outside inPlace) source target⟩
  | union inPlace source target members =>
    exact wholeAtOnce_union (outside inPlace) source target members below
      (assigned_union _ (assigned_declared _ _ _) _ _ _)

end Parts

def Emits (f : Frame) (t : Task) (body : List Stmt) : Prop :=
  ∃ depth, Gets (convertWithin f depth) t body

inductive Route where
  | field
  | element
  | value
  | member

inductive Next (c : Catalog) (t : Task) : Route → Task → Prop
  | field {left right : List Member} {x y : Member}
      (source : (c.resolve t.source).type = some (.object left))
      (target : (c.resolve t.target).type = some (.object right)) (mem : y ∈ right)
      (found : Members.find? left y.name = some x)
      (compound : ¬ BothPrimitive c x.attr y.attr) : Next c t .field (t.field x y)
  | element {x y : Attribute} (source : (c.resolve t.source).type = some (.array x))
      (target : (c.resolve t.target).type = some (.array y)) : Next c t .element (t.element x y)
  | value {leftKey x rightKey y : Attribute}
      (source : (c.resolve t.source).type = some (.map leftKey x))
      (target : (c.resolve t.target).type = some (.map rightKey y)) :
      Next c t .value (t.value x y)
  | member {left right : List Member} {x y : Member}
      (source : (c.resolve t.source).type = some (.union left))
      (target : (c.resolve t.target).type = some (.union right)) (mem : x ∈ left)
      (found : Members.find? right x.name = some y) : Next c t .member (t.member x y)

/-- The statements of a part stand where they have to in those of the task `t`. -/
def Stands (f : Frame) (t : Task) (body : List Stmt) (u : Task) (inner : List Stmt) : Route → Prop
  | .field => nestedField f u.target u.sourceExpr inner <:+: body
  | .element =>
    .range (loopVar "i" t.depth) (loopVar "val" t.depth) t.sourceExpr [] inner ∈ body
  | .value => ∃ first,
    .range (loopVar "key" t.depth) (loopVar "val" t.depth) t.sourceExpr first inner ∈ body
  | .member => ∃ cases', .typeSwitch (loopVar "actual" t.depth) t.sourceExpr cases' ∈ body ∧
    ⟨f.sourceRef u.source, inner⟩ ∈ cases'

/-- A part that is converted in place, within the statements of the whole. -/
structure Part (f : Frame) (t : Task) (body : List Stmt) (route : Route) (u : Task)
    (inner : List Stmt) : Prop where
  inPlace : ¬ t.Called f.catalog
  next : Next f.catalog t route u
  emits : Emits f u inner
  stands : Stands f t body u inner route

inductive Inside (f : Frame) (t : Task) (body : List Stmt) : Task → List Stmt → Prop
  | whole : Inside f t body t body
  | part {p u : Task} {outer inner : List Stmt} {route : Route} (inside : Inside f t body p outer)
      (part : Part f p outer route u inner) : Inside f t body u inner

/-- The target is of type `any`, or a struct in a map. -/
def Unassignable (u : Task) : Route → Prop
  | .member => True
  | .value => u.target.isStruct = true
  | _ => False

inductive Code.Whole (code : Code) (c : Catalog) (r : ConversionRequest) : Task → List Stmt → Prop
  | body : Whole code c r (taskOf r) code.body
  | helper {h : HelperCode} {x y : Attribute} {body : List Stmt} (mem : h ∈ code.helpers)
      (place : Place c r.source r.target x y) (name : h.name = (frameOf c r).helperName x y)
      (guards : h.body = guarded (frameOf c r) x body)
      (emits : Emits (frameOf c r) (Contract.helperTask x y) body) :
      Whole code c r (Contract.helperTask x y) body

/-- The code converts `u` by the statements `inner`, somewhere in the body or in a helper. -/
def Code.Contains (code : Code) (c : Catalog) (r : ConversionRequest) (route : Route) (u : Task)
    (inner : List Stmt) : Prop :=
  ∃ t body p outer, code.Whole c r t body ∧ Inside (frameOf c r) t body p outer ∧
    Part (frameOf c r) p outer route u inner

def Code.AssignsWhole (code : Code) (c : Catalog) (r : ConversionRequest) : Prop :=
  ∀ route u inner, code.Contains c r route u inner → Unassignable u route →
    AssignedWhole u.targetExpr inner

/-- Every helper is the conversion of a pair, every part of a conversion in place has statements in
it, and these leave the parts of their target alone just if it is made at once. -/
structure Code.Described (code : Code) (c : Catalog) (r : ConversionRequest) : Prop where
  helpers : ∀ h ∈ code.helpers, ∃ x y body, h.name = (frameOf c r).helperName x y ∧
    h.body = guarded (frameOf c r) x body ∧ code.Whole c r (Contract.helperTask x y) body
  parts : ∀ t body p outer route u, code.Whole c r t body →
    Inside (frameOf c r) t body p outer → ¬ p.Called c → Next c p route u →
      ∃ inner, Part (frameOf c r) p outer route u inner
  whole : ∀ route u inner, code.Contains c r route u inner →
    (AssignedWhole u.targetExpr inner ↔ AtOnce (frameOf c r) u.source u.target)

section Whole

variable {f : Frame} {t p u : Task} {body outer inner : List Stmt} {route : Route} {c : Catalog}
  {r : ConversionRequest} {code : Code} {Q : Task → List Stmt → Prop}

theorem Next.nested (next : Next c t route u) : u.position = .nested := by
  cases next <;> rfl

theorem idleOrAssigned_of_run {depth : Nat} (nested : t.position = .nested)
    (gets : Gets (convertWithin f depth) t body) : IdleOrAssigned f.catalog t body := by
  induction depth generalizing t body with
  | zero =>
    obtain ⟨_, _, run⟩ := gets
    cases run
  | succ depth ih =>
    obtain ⟨_, _, run⟩ := gets
    exact idleOrAssigned_of_code nested (fun u inner => ih) (nodeCode_of_run run)

theorem wholeAtOnce_of_run {depth : Nat} (nested : t.position = .nested)
    (gets : Gets (convertWithin f depth) t body) : WholeAtOnce f t body := by
  induction depth generalizing t body with
  | zero =>
    obtain ⟨_, _, run⟩ := gets
    cases run
  | succ depth ih =>
    obtain ⟨_, _, run⟩ := gets
    exact wholeAtOnce_of_code nested (fun u inner => idleOrAssigned_of_run) (fun u inner => ih)
      (nodeCode_of_run run)

theorem stands_of_code (code : NodeCode Q f t body) (inPlace : ¬ t.Called f.catalog)
    (next : Next f.catalog t route u) : ∃ inner, Q u inner ∧ Stands f t body u inner route := by
  cases next with
  | field source target mem found compound =>
    cases code with
    | object _ source' target' fields =>
      cases source.symm.trans source'
      cases target.symm.trans target'
      obtain ⟨inner, here, stands⟩ := fields.compound_stands mem found compound
      exact ⟨inner, here, stands.trans (List.suffix_cons _ _).isInfix⟩
    | call called => exact absurd called inPlace
    | _ _ source' => exact nomatch source.symm.trans source'
  | element source target =>
    cases code with
    | array _ source' target' here =>
      cases source.symm.trans source'
      cases target.symm.trans target'
      exact ⟨_, here, List.mem_cons_of_mem _ List.mem_cons_self⟩
    | call called => exact absurd called inPlace
    | _ _ source' => exact nomatch source.symm.trans source'
  | value source target =>
    cases code with
    | map _ source' target' here =>
      cases source.symm.trans source'
      cases target.symm.trans target'
      exact ⟨_, here, _, List.mem_cons_of_mem _ List.mem_cons_self⟩
    | call called => exact absurd called inPlace
    | _ _ source' => exact nomatch source.symm.trans source'
  | member source target mem found =>
    cases code with
    | union _ source' target' members =>
      cases source.symm.trans source'
      cases target.symm.trans target'
      obtain ⟨inner, here, stands⟩ := members.stands mem found
      exact ⟨inner, here, _, List.mem_append_right _ List.mem_cons_self, stands⟩
    | call called => exact absurd called inPlace
    | _ _ source' => exact nomatch source.symm.trans source'

theorem Emits.part (emits : Emits f t body) (inPlace : ¬ t.Called f.catalog)
    (next : Next f.catalog t route u) : ∃ inner, Part f t body route u inner := by
  obtain ⟨depth, s, s', run⟩ := emits
  cases depth with
  | zero => cases run
  | succ depth =>
    obtain ⟨inner, gets, stands⟩ := stands_of_code (nodeCode_of_run run) inPlace next
    exact ⟨inner, inPlace, next, ⟨depth, gets⟩, stands⟩

theorem Inside.emits (inside : Inside f t body p outer) (emits : Emits f t body) :
    Emits f p outer := by
  cases inside with
  | whole => exact emits
  | part _ part => exact part.emits

theorem Code.Whole.emits (built : build c r = .ok code) (whole : code.Whole c r t body) :
    Emits (frameOf c r) t body := by
  cases whole with
  | body =>
    obtain ⟨emitted, run, -⟩ := build_eq_ok.mp built
    exact ⟨_, _, _, run⟩
  | helper _ _ _ _ emits => exact emits

theorem described_of_build (built : build c r = .ok code) : code.Described c r where
  helpers := by
    intro h mem
    obtain ⟨x, y, place, converts⟩ := (complete_of_build built).made h mem
    obtain ⟨depth, body, s, s', run, guards⟩ := converts.body
    exact ⟨x, y, body, converts.name, guards,
      .helper mem place converts.name guards ⟨depth, s, s', run⟩⟩
  parts := by
    intro t body p outer route u whole inside inPlace next
    exact (inside.emits (whole.emits built)).part inPlace next
  whole := by
    rintro route u inner ⟨t, body, p, outer, whole, inside, part⟩
    obtain ⟨depth, gets⟩ := part.emits
    exact wholeAtOnce_of_run part.next.nested gets

end Whole

/-- What cannot be assigned to in parts is assigned as a whole just if it is made at once, wherever
it is converted. -/
theorem assigns_whole_iff_at_once {c : Catalog} {r : ConversionRequest} {code : Code}
    (built : build c r = .ok code) :
    code.Described c r ∧ (code.AssignsWhole c r ↔ ∀ route u inner,
      code.Contains c r route u inner → Unassignable u route →
        AtOnce (frameOf c r) u.source u.target) := by
  have described := described_of_build built
  refine ⟨described, forall₃_congr fun route u inner => ?_⟩
  exact forall₂_congr fun contains _ => described.whole route u inner contains

/-! Unions that are converted into themselves, of lists and of user types. -/
namespace Chosen

def text : Attribute := .ofType (.primitive .string)

def catalog : Catalog :=
  ⟨[{ name := "Doc", body := { type := some (.object [⟨"id", text⟩]), required := ["id"] } }]⟩

def union (a : Attribute) : Attribute := .ofType (.union [⟨"held", a⟩])

def request (a : Attribute) : ConversionRequest :=
  { source := union a, target := union a, sourceVar := "v", targetVar := "res",
    sourceSide := ⟨"", true⟩, targetSide := ⟨"", true⟩, helperPrefix := "", byReference := true }

theorem held_next (a : Attribute) : Next catalog (taskOf (request a)) .member
    ((taskOf (request a)).member ⟨"held", a⟩ ⟨"held", a⟩) := by
  have type : (catalog.resolve (taskOf (request a)).source).type = some (.union [⟨"held", a⟩]) := rfl
  exact .member type type List.mem_cons_self rfl

def listText : String :=
  "var res any\nswitch actual := v.(type) \x7b\ncase []string:\n" ++
    "\tres = make([]string, len(actual))\n\tfor i1, val1 := range actual \x7b\n" ++
      "\t\tres[i1] = val1\n\t\x7d\n\x7d\n"

/-- The elements of a list are assigned to, through a variable that cannot be indexed. -/
theorem list_filled_in_any :
    ∃ code, build catalog (request (.ofType (.array text))) = .ok code ∧
      code.render = ⟨listText, []⟩ ∧
      ¬ code.AssignsWhole catalog (request (.ofType (.array text))) := by
  have written : engine catalog [] (request (.ofType (.array text))) = .ok ⟨listText, []⟩ := by
    decide +kernel
  obtain ⟨code, built, rendered⟩ := engine_eq_ok.mp written
  have described := described_of_build built
  obtain ⟨inner, part⟩ := described.parts _ _ _ _ _ _ .body .whole nofun (held_next _)
  refine ⟨code, built, rendered, fun whole => ?_⟩
  have contains : code.Contains _ _ .member _ inner := ⟨_, _, _, _, .body, .whole, part⟩
  have once := (described.whole _ _ _ contains).mp (whole _ _ _ contains trivial)
  have idle : Idle catalog text text := once.shapes (fun needed => nomatch needed.source) rfl rfl
  obtain ⟨left, union⟩ := idle.unions
  cases union

def reference : Attribute := .ofType (.user 0)

def document : ConversionRequest := request reference

theorem reference_called : NeedsHelper catalog reference reference := ⟨rfl, rfl, rfl⟩

theorem pairs {q : Attribute × Attribute}
    (path : Relation.ReflTransGen (LeadsTo catalog) (union reference, union reference) q) :
    q = (union reference, union reference) ∨ q = (reference, reference) ∨ q = (text, text) := by
  induction path with
  | refl => exact .inl rfl
  | tail _ step ih =>
    rcases ih with rfl | rfl | rfl
    · cases step with
      | member source target mem found =>
        cases source
        cases target
        obtain rfl := List.mem_singleton.mp mem
        obtain rfl := List.mem_singleton.mp (Members.find?_mem found).1
        exact .inr (.inl rfl)
      | _ source => cases source
    · cases step with
      | field source target mem found =>
        cases source
        cases target
        obtain rfl := List.mem_singleton.mp mem
        obtain rfl := List.mem_singleton.mp (Members.find?_mem found).1
        exact .inr (.inr rfl)
      | _ source => cases source
    · cases step with
      | _ source => cases source

theorem no_next {p u : Task} {route : Route} (source : p.source = reference)
    (target : p.target = reference) : ¬ Next catalog p route u := by
  rintro next
  cases next with
  | field left right mem found compound =>
    rw [source] at left
    rw [target] at right
    cases left
    cases right
    obtain rfl := List.mem_singleton.mp mem
    obtain rfl := List.mem_singleton.mp (Members.find?_mem found).1
    exact compound ⟨rfl, rfl⟩
  | _ left =>
    rw [source] at left
    cases left

theorem next_of_document {u : Task} {route : Route}
    (next : Next catalog (taskOf document) route u) :
    u.source = reference ∧ u.target = reference := by
  cases next with
  | member left right mem found =>
    cases left
    cases right
    obtain rfl := List.mem_singleton.mp mem
    obtain rfl := List.mem_singleton.mp (Members.find?_mem found).1
    exact ⟨rfl, rfl⟩
  | _ left => cases left

theorem source_of_whole {code : Code} {t : Task} {body : List Stmt}
    (whole : code.Whole catalog document t body) :
    t = taskOf document ∨ t.source = reference ∧ t.target = reference := by
  cases whole with
  | body => exact .inl rfl
  | helper _ place =>
    refine .inr ?_
    obtain ⟨nested, needed⟩ := place
    rcases pairs nested.to_reflTransGen with same | same | same <;> cases same
    · exact nomatch needed.source
    · exact ⟨rfl, rfl⟩
    · exact nomatch needed.source

theorem document_at_once {code : Code} {route : Route} {u : Task} {inner : List Stmt}
    (contains : code.Contains catalog document route u inner) :
    AtOnce (frameOf catalog document) u.source u.target := by
  obtain ⟨t, body, p, outer, whole, inside, part⟩ := contains
  have below : ∀ {q : Task} {stmts : List Stmt},
      Inside (frameOf catalog document) t body q stmts →
        q = taskOf document ∨ q.source = reference ∧ q.target = reference := by
    intro q stmts inside
    induction inside with
    | whole => exact source_of_whole whole
    | part _ part ih =>
      rcases ih with rfl | ⟨source, target⟩
      · exact .inr (next_of_document part.next)
      · exact absurd part.next (no_next source target)
  rcases below inside with rfl | ⟨source, target⟩
  · obtain ⟨source, target⟩ := next_of_document part.next
    rw [source, target]
    exact .call reference_called
  · exact absurd part.next (no_next source target)

def documentOutput : ConversionOutput :=
  { body := "var res any\nswitch actual := v.(type) \x7b\ncase *Doc:\n" ++
      "\tres = transformDocToDoc(actual)\n\x7d\n",
    helpers := [
      { name := "transformDocToDoc", paramType := "*Doc", resultType := "*Doc",
        body := "if v == nil \x7b\n\treturn nil\n\x7d\nres := &Doc\x7b\n\tID: v.ID,\n\x7d\n" }] }

theorem document_assigned_whole :
    ∃ code, build catalog document = .ok code ∧ code.render = documentOutput ∧
      code.AssignsWhole catalog document ∧
        ∃ u inner, code.Contains catalog document .member u inner ∧ u.targetExpr = .var "res" := by
  have written : engine catalog [] document = .ok documentOutput := by decide +kernel
  obtain ⟨code, built, rendered⟩ := engine_eq_ok.mp written
  obtain ⟨described, assignsWhole⟩ := assigns_whole_iff_at_once built
  obtain ⟨inner, part⟩ := described.parts _ _ _ _ _ _ .body .whole nofun (held_next _)
  refine ⟨code, built, rendered, assignsWhole.mpr fun _ _ _ contains _ => ?_, ?_⟩
  · exact document_at_once contains
  · exact ⟨_, inner, ⟨_, _, _, _, .body, .whole, part⟩, rfl⟩

end Chosen

end Toolbridge.Conversion
