import Toolbridge.Proofs.Conversion.Descent
import Toolbridge.Proofs.Go.Calls

set_option autoImplicit false

/-!
# Accounts of conversion steps

An account claims something of two steps that run side by side, given names that are taken and the
calls that the result holds; the claim passes on to steps that are composed. One level of a
conversion then keeps an account that the pairs below and its helper keep, also where the second
conversion is named from other sides that spell everything below in the same way.
-/
namespace Toolbridge.Conversion

open Go (Expr Stmt TypeCase Assignment blockCalls casesCalls fieldsCalls)

structure Account where
  Holds : {α : Type} → List String → (α → List String) → Emit α → Emit α → Prop
  pure : ∀ {α : Type} {known : List String} {calls : α → List String} {x : α},
    calls x ⊆ known → Holds known calls (pure x) (pure x)
  fail : ∀ {α : Type} {known : List String} {calls : α → List String} (e : ConversionError),
    Holds known calls (fail e) (fail e)
  bind : ∀ {α β : Type} {known : List String} {calls : α → List String}
    {calls' : β → List String} {m m' : Emit α} {g g' : α → Emit β}, Holds known calls m m' →
      (∀ x, Holds (calls x ++ known) calls' (g x) (g' x)) →
        Holds known calls' (m >>= g) (m' >>= g')

def Frame.respelled (f : Frame) (source target : Go.Side) : Frame := { f with source, target }

/-- The two sides name all that is below `x` and `y` as the sides of the frame do. -/
structure SpelledAlike (f : Frame) (source target : Go.Side) (x y : Attribute) : Prop where
  sourceRef : ∀ u, f.catalog.Reaches x u → source.typeRef f.catalog u = f.sourceRef u
  sourcePackage : ∀ u, f.catalog.Reaches x u →
    source.packageOf f.catalog u = f.source.packageOf f.catalog u
  sourceDefault : source.useDefault = f.source.useDefault
  targetRef : ∀ v, f.catalog.Reaches y v → target.typeRef f.catalog v = f.targetRef v
  targetPackage : ∀ v, f.catalog.Reaches y v →
    target.packageOf f.catalog v = f.target.packageOf f.catalog v
  targetDefault : target.useDefault = f.target.useDefault

section Spelling

variable {f : Frame} {source target : Go.Side} {x y u v : Attribute}

theorem SpelledAlike.self (f : Frame) (x y : Attribute) :
    SpelledAlike f f.source f.target x y :=
  ⟨fun _ _ => rfl, fun _ _ => rfl, rfl, fun _ _ => rfl, fun _ _ => rfl, rfl⟩

theorem SpelledAlike.below (h : SpelledAlike f source target x y) (left : f.catalog.Reaches x u)
    (right : f.catalog.Reaches y v) : SpelledAlike f source target u v :=
  ⟨fun w path => h.sourceRef w (left.trans path), fun w path => h.sourcePackage w (left.trans path),
    h.sourceDefault, fun w path => h.targetRef w (right.trans path),
    fun w path => h.targetPackage w (right.trans path), h.targetDefault⟩

theorem SpelledAlike.source_here (h : SpelledAlike f source target x y) :
    (f.respelled source target).sourceRef x = f.sourceRef x := h.sourceRef x .refl

theorem SpelledAlike.target_here (h : SpelledAlike f source target x y) :
    (f.respelled source target).targetRef y = f.targetRef y := h.targetRef y .refl

theorem SpelledAlike.cast (h : SpelledAlike f source target x y) (e : Expr) :
    (f.respelled source target).cast x y e = f.cast x y e := by
  unfold Frame.cast
  rw [h.source_here, h.target_here]

theorem SpelledAlike.helperName (h : SpelledAlike f source target x y) :
    (f.respelled source target).helperName x y = f.helperName x y := by
  have left : source.packageOf f.catalog x = f.source.packageOf f.catalog x :=
    h.sourcePackage x .refl
  have right : target.packageOf f.catalog y = f.target.packageOf f.catalog y :=
    h.targetPackage y .refl
  simp only [Frame.helperName, Frame.respelled, left, right]

theorem SpelledAlike.literalOpening (h : SpelledAlike f source target x y) (position : Position) :
    literalOpening (f.respelled source target) position y = literalOpening f position y := by
  unfold Conversion.literalOpening
  rw [h.target_here]
  rfl

theorem SpelledAlike.primitiveField (h : SpelledAlike f source target x y) (left right : Bool)
    (goField : String) (e e' : Expr) :
    primitiveField (f.respelled source target) left right x y goField e e' =
      primitiveField f left right x y goField e e' := by
  have default : (f.respelled source target).target.useDefault = f.target.useDefault :=
    h.targetDefault
  unfold Conversion.primitiveField
  simp only [h.source_here, h.target_here, h.cast, default]

end Spelling

section Calls

variable {f : Frame} {x y : Attribute} {e e' : Expr}

@[simp] theorem calls_cast : (f.cast x y e).calls = e.calls := by
  unfold Frame.cast
  split <;> rfl

def ObjectParts.calls (parts : ObjectParts) : List String :=
  fieldsCalls parts.fields ++ blockCalls parts.after

theorem ObjectParts.calls_append (p q : ObjectParts) :
    (p.append q).calls ⊆ p.calls ++ q.calls := by
  intro n mem
  have parts : n ∈ (fieldsCalls p.fields ++ fieldsCalls q.fields) ++
      (blockCalls p.after ++ blockCalls q.after) := by
    rw [← Go.fieldsCalls_append, ← Go.blockCalls_append]
    exact mem
  simp only [calls, List.mem_append] at parts ⊢
  grind

theorem calls_primitiveField (left right : Bool) (goField : String) (source : e.calls = [])
    (target : e'.calls = []) : (primitiveField f left right x y goField e e').calls = [] := by
  unfold primitiveField
  cases left <;> cases right <;> dsimp only <;> repeat' split
  all_goals
    simp [ObjectParts.calls, fieldsCalls, blockCalls, Stmt.calls, Go.assignmentsCalls,
      Assignment.calls, Expr.calls, copyThroughPointer, source, target]

theorem calls_nestedField {body : List Stmt} (source : e.calls = []) :
    blockCalls (nestedField f y e body) = blockCalls body := by
  unfold nestedField
  split
  · rfl
  · simp [blockCalls, Stmt.calls, source]

end Calls

structure Task.Plain (t : Task) : Prop where
  source : t.sourceExpr.calls = []
  target : t.targetExpr.calls = []

def Account.Nested (A : Account) (c : Catalog) (p : Attribute × Attribute)
    (convert convert' : Task → Emit (List Stmt)) : Prop :=
  ∀ q, LeadsTo c p q → ∀ known source target declares depth, source.calls = [] →
    target.calls = [] →
      A.Holds known blockCalls (convert ⟨q.1, q.2, source, target, declares, depth, .nested⟩)
        (convert' ⟨q.1, q.2, source, target, declares, depth, .nested⟩)

section Level

variable {A : Account} {f : Frame} {source target : Go.Side} {t : Task} {known : List String}
  {convert convert' : Task → Emit (List Stmt)}

theorem holds_append {parts : ObjectParts} {others others' : Emit ObjectParts}
    (told : parts.calls ⊆ known) (held : A.Holds known ObjectParts.calls others others') :
    A.Holds known ObjectParts.calls (others >>= fun more => pure (parts.append more))
      (others' >>= fun more => pure (parts.append more)) := by
  refine A.bind held fun more => A.pure ?_
  intro n mem
  rcases List.mem_append.mp (ObjectParts.calls_append parts more mem) with first | later
  · exact List.mem_append_right _ (told first)
  · exact List.mem_append_left _ later

theorem holds_objectParts (alike : SpelledAlike f source target t.source t.target)
    (plain : t.Plain) (nested : A.Nested f.catalog (t.source, t.target) convert convert')
    {sourceFields targetFields : List Member}
    (left : (f.catalog.resolve t.source).type = some (.object sourceFields))
    (right : (f.catalog.resolve t.target).type = some (.object targetFields))
    {fields : List Member} (sub : fields ⊆ targetFields) :
    A.Holds known ObjectParts.calls
      (objectParts f convert t (f.catalog.resolve t.source) (f.catalog.resolve t.target)
        sourceFields fields)
      (objectParts (f.respelled source target) convert' t (f.catalog.resolve t.source)
        (f.catalog.resolve t.target) sourceFields fields) := by
  induction fields generalizing known with
  | nil => exact A.pure (List.nil_subset _)
  | cons field rest ih =>
    have mem : field ∈ targetFields := sub List.mem_cons_self
    have others : ∀ known, A.Holds known ObjectParts.calls
        (objectParts f convert t (f.catalog.resolve t.source) (f.catalog.resolve t.target)
          sourceFields rest)
        (objectParts (f.respelled source target) convert' t (f.catalog.resolve t.source)
          (f.catalog.resolve t.target) sourceFields rest) :=
      fun _ => ih fun m later => sub (List.mem_cons_of_mem _ later)
    have made : ∀ (parts : ObjectParts) (known : List String), parts.calls ⊆ known →
        A.Holds known ObjectParts.calls (pure parts) (pure parts) := fun _ _ told => A.pure told
    unfold objectParts
    cases found : Members.find? sourceFields field.name with
    | none => exact others known
    | some other =>
      have step : LeadsTo f.catalog (t.source, t.target) (other.attr, field.attr) :=
        .field left right mem found
      obtain ⟨reachX, reachY⟩ := step.reaches
      have here := alike.below reachX reachY
      have sourcePlain : (t.sourceExpr.select (Go.identifier true field.name)).calls = [] :=
        plain.source
      have targetPlain : (t.targetExpr.select (Go.identifier true field.name)).calls = [] :=
        plain.target
      have catalog : (f.respelled source target).catalog = f.catalog := rfl
      have sourceDefault : (f.respelled source target).source.useDefault = f.source.useDefault :=
        alike.sourceDefault
      have targetDefault : (f.respelled source target).target.useDefault = f.target.useDefault :=
        alike.targetDefault
      dsimp only
      rw [catalog, sourceDefault, targetDefault, here.primitiveField]
      split
      · have nothing : ∀ left right goField, (primitiveField f left right other.attr field.attr
            goField (t.sourceExpr.select (Go.identifier true field.name))
            (t.targetExpr.select (Go.identifier true field.name))).calls = [] :=
          fun left right goField => calls_primitiveField left right goField sourcePlain targetPlain
        refine A.bind (made _ _ ?_) fun parts =>
          holds_append (List.subset_append_left _ _) (others _)
        rw [nothing]
        exact List.nil_subset _
      · refine A.bind (nested _ step known _ _ _ _ sourcePlain targetPlain) fun body => ?_
        refine A.bind (made _ _ ?_) fun parts =>
          holds_append (List.subset_append_left _ _) (others _)
        rw [ObjectParts.calls, calls_nestedField sourcePlain]
        exact List.subset_append_left _ _

theorem holds_convertObject (alike : SpelledAlike f source target t.source t.target)
    (plain : t.Plain) (nested : A.Nested f.catalog (t.source, t.target) convert convert')
    {sourceFields targetFields : List Member}
    (left : (f.catalog.resolve t.source).type = some (.object sourceFields))
    (right : (f.catalog.resolve t.target).type = some (.object targetFields)) :
    A.Holds known blockCalls
      (convertObject f convert t (f.catalog.resolve t.source) (f.catalog.resolve t.target)
        sourceFields targetFields)
      (convertObject (f.respelled source target) convert' t (f.catalog.resolve t.source)
        (f.catalog.resolve t.target) sourceFields targetFields) := by
  unfold convertObject
  refine A.bind (holds_objectParts alike plain nested left right (List.Subset.refl _))
    fun parts => ?_
  rw [alike.literalOpening]
  refine A.pure ?_
  intro n mem
  simp only [blockCalls, Stmt.calls, plain.target, List.nil_append] at mem
  exact List.mem_append_left _ mem

theorem holds_convertArray (alike : SpelledAlike f source target t.source t.target)
    (plain : t.Plain) (nested : A.Nested f.catalog (t.source, t.target) convert convert')
    {x y : Attribute} (left : (f.catalog.resolve t.source).type = some (.array x))
    (right : (f.catalog.resolve t.target).type = some (.array y)) :
    A.Holds known blockCalls (convertArray f convert t x y)
      (convertArray (f.respelled source target) convert' t x y) := by
  have step : LeadsTo f.catalog (t.source, t.target) (x, y) := .element left right
  unfold convertArray
  refine A.bind (nested _ step known _ _ _ _ rfl plain.target) fun body => ?_
  rw [alike.target_here]
  refine A.pure ?_
  simp [blockCalls, Stmt.calls, Assignment.calls, Expr.calls, Go.assignmentsCalls, plain.source,
    plain.target]

theorem holds_convertMap (alike : SpelledAlike f source target t.source t.target)
    (plain : t.Plain) (nested : A.Nested f.catalog (t.source, t.target) convert convert')
    {leftKey x rightKey y : Attribute}
    (left : (f.catalog.resolve t.source).type = some (.map leftKey x))
    (right : (f.catalog.resolve t.target).type = some (.map rightKey y)) :
    A.Holds known blockCalls (convertMap f convert t leftKey x rightKey y)
      (convertMap (f.respelled source target) convert' t leftKey x rightKey y) := by
  have step : LeadsTo f.catalog (t.source, t.target) (x, y) := .value left right
  have keys := alike.below ((reaches_resolve f.catalog t.source).part (.key left))
    ((reaches_resolve f.catalog t.target).part (.key right))
  have catalog : (f.respelled source target).catalog = f.catalog := rfl
  unfold convertMap
  rw [catalog]
  split
  · exact A.fail _
  · refine A.bind (nested _ step known _ _ _ _ rfl plain.target) fun body => ?_
    rw [alike.target_here, keys.cast]
    refine A.pure ?_
    simp [blockCalls, Stmt.calls, Assignment.calls, Expr.calls, Go.assignmentsCalls, plain.source,
      plain.target]

theorem holds_unionCases (alike : SpelledAlike f source target t.source t.target)
    (plain : t.Plain) (nested : A.Nested f.catalog (t.source, t.target) convert convert')
    {sourceMembers targetMembers : List Member}
    (left : (f.catalog.resolve t.source).type = some (.union sourceMembers))
    (right : (f.catalog.resolve t.target).type = some (.union targetMembers))
    {members : List Member} (sub : members ⊆ sourceMembers) (seen : List String) :
    A.Holds known casesCalls (unionCases f convert t targetMembers seen members)
      (unionCases (f.respelled source target) convert' t targetMembers seen members) := by
  induction members generalizing known seen with
  | nil => exact A.pure (List.nil_subset _)
  | cons member rest ih =>
    have mem : member ∈ sourceMembers := sub List.mem_cons_self
    unfold unionCases
    cases found : Members.find? targetMembers member.name with
    | none => exact A.fail _
    | some other =>
      have step : LeadsTo f.catalog (t.source, t.target) (member.attr, other.attr) :=
        .member left right mem found
      obtain ⟨reachX, reachY⟩ := step.reaches
      have spelled : (f.respelled source target).sourceRef member.attr = f.sourceRef member.attr :=
        (alike.below reachX reachY).source_here
      dsimp only
      rw [spelled]
      split
      · exact A.fail _
      · refine A.bind (nested _ step known _ _ _ _ rfl plain.target) fun body => ?_
        refine A.bind (ih (fun m later => sub (List.mem_cons_of_mem _ later)) _) fun cases => ?_
        refine A.pure ?_
        intro n here
        rcases List.mem_append.mp here with first | later
        · exact List.mem_append_right _ (List.mem_append_left _ first)
        · exact List.mem_append_left _ later

theorem holds_convertUnion (alike : SpelledAlike f source target t.source t.target)
    (plain : t.Plain) (nested : A.Nested f.catalog (t.source, t.target) convert convert')
    {sourceMembers targetMembers : List Member}
    (left : (f.catalog.resolve t.source).type = some (.union sourceMembers))
    (right : (f.catalog.resolve t.target).type = some (.union targetMembers)) :
    A.Holds known blockCalls (convertUnion f convert t sourceMembers targetMembers)
      (convertUnion (f.respelled source target) convert' t sourceMembers targetMembers) := by
  unfold convertUnion
  refine A.bind (holds_unionCases alike plain nested left right (List.Subset.refl _) [])
    fun cases => ?_
  rw [alike.target_here]
  refine A.pure ?_
  split <;> simp [blockCalls, Stmt.calls, plain.source, plain.target]

/-- One level of a conversion keeps an account that the level below and its helper keep. -/
theorem holds_convertNode (alike : SpelledAlike f source target t.source t.target)
    (plain : t.Plain) (nested : A.Nested f.catalog (t.source, t.target) convert convert')
    (helper : t.position = .nested → NeedsHelper f.catalog t.source t.target →
      A.Holds known (fun name => [name]) (requireHelper f convert t.source t.target)
        (requireHelper (f.respelled source target) convert' t.source t.target)) :
    A.Holds known blockCalls (convertNode f convert t)
      (convertNode (f.respelled source target) convert' t) := by
  have catalog : (f.respelled source target).catalog = f.catalog := rfl
  unfold convertNode
  rw [catalog]
  split
  · exact A.fail _
  · dsimp only
    split
    · rename_i called
      obtain ⟨position, left, right, compound⟩ := called
      refine A.bind (helper position ⟨left, right, compound⟩) fun name => A.pure ?_
      simp [blockCalls, Stmt.calls, Assignment.calls, Expr.calls, plain.source, plain.target]
    · rw [alike.cast]
      split
      · refine A.pure ?_
        simp [blockCalls, Stmt.calls, Assignment.calls, plain.source, plain.target]
      · rename_i left right
        exact holds_convertObject alike plain nested left right
      · rename_i left right
        exact holds_convertArray alike plain nested left right
      · rename_i left right
        exact holds_convertMap alike plain nested left right
      · rename_i left right
        exact holds_convertUnion alike plain nested left right
      · exact A.fail _
      · exact A.fail _

end Level

end Toolbridge.Conversion
