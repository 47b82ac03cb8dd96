import Toolbridge.Proofs.Conversion.Contract
import Toolbridge.Proofs.Conversion.Descent

set_option autoImplicit false

namespace Toolbridge.Conversion

open Go (Expr Stmt TypeCase)

namespace Task

def field (t : Task) (x y : Member) : Task :=
  ⟨x.attr, y.attr, .select t.sourceExpr (Go.identifier true y.name),
    .select t.targetExpr (Go.identifier true y.name), false, t.depth + 1, .nested⟩

def element (t : Task) (x y : Attribute) : Task :=
  ⟨x, y, .var (loopVar "val" t.depth), .index t.targetExpr (loopVar "i" t.depth), false,
    t.depth + 1, .nested⟩

def value (t : Task) (x y : Attribute) : Task :=
  ⟨x, y, .var (loopVar "val" t.depth), .index t.targetExpr (loopVar "tk" t.depth), false,
    t.depth + 1, .nested⟩

def member (t : Task) (x y : Member) : Task :=
  ⟨x.attr, y.attr, .var (loopVar "actual" t.depth), t.targetExpr, false, t.depth + 1, .nested⟩

structure Called (t : Task) (c : Catalog) : Prop where
  nested : t.position = .nested
  needed : NeedsHelper c t.source t.target

end Task

/-- Both are primitives, or user types for primitives. -/
def BothPrimitive (c : Catalog) (x y : Attribute) : Prop :=
  (c.resolvedPrimitive? x).isSome ∧ (c.resolvedPrimitive? y).isSome

def primitiveParts (f : Frame) (t : Task) (x y : Member) : ObjectParts :=
  primitiveField f
    (f.catalog.isPrimitivePointer (f.catalog.resolve t.source) x.name f.source.useDefault)
    (f.catalog.isPrimitivePointer (f.catalog.resolve t.target) y.name f.target.useDefault)
    x.attr y.attr (Go.identifier true y.name) (t.field x y).sourceExpr (t.field x y).targetExpr

/-- The parts for the target fields, each from the first source field of its name. -/
inductive FieldsCode (Q : Task → List Stmt → Prop) (f : Frame) (t : Task) (left : List Member) :
    List Member → ObjectParts → Prop
  | nil : FieldsCode Q f t left [] {}
  | absent {rest : List Member} {y : Member} {parts : ObjectParts}
      (missing : Members.find? left y.name = none) (others : FieldsCode Q f t left rest parts) :
      FieldsCode Q f t left (y :: rest) parts
  | primitive {rest : List Member} {x y : Member} {parts : ObjectParts}
      (found : Members.find? left y.name = some x)
      (primitive : BothPrimitive f.catalog x.attr y.attr)
      (others : FieldsCode Q f t left rest parts) :
      FieldsCode Q f t left (y :: rest) ((primitiveParts f t x y).append parts)
  | compound {rest : List Member} {x y : Member} {parts : ObjectParts} {body : List Stmt}
      (found : Members.find? left y.name = some x)
      (compound : ¬ BothPrimitive f.catalog x.attr y.attr) (inner : Q (t.field x y) body)
      (others : FieldsCode Q f t left rest parts) :
      FieldsCode Q f t left (y :: rest)
        (ObjectParts.append { after := nestedField f y.attr (t.field x y).sourceExpr body } parts)

inductive CasesCode (Q : Task → List Stmt → Prop) (f : Frame) (t : Task) (right : List Member) :
    List Member → List TypeCase → Prop
  | nil : CasesCode Q f t right [] []
  | cons {rest : List Member} {x y : Member} {body : List Stmt} {cases : List TypeCase}
      (found : Members.find? right x.name = some y) (inner : Q (t.member x y) body)
      (others : CasesCode Q f t right rest cases) :
      CasesCode Q f t right (x :: rest) (⟨f.sourceRef x.attr, body⟩ :: cases)

/-- The code for a task, where `Q` is what is known of the tasks that it leads to. -/
inductive NodeCode (Q : Task → List Stmt → Prop) (f : Frame) (t : Task) : List Stmt → Prop
  | call (called : t.Called f.catalog) :
      NodeCode Q f t [.assign ⟨t.declares, t.targetExpr,
        .call (f.helperName t.source t.target) t.sourceExpr⟩]
  | primitive {p q : Primitive} (inPlace : ¬ t.Called f.catalog)
      (source : (f.catalog.resolve t.source).type = some (.primitive p))
      (target : (f.catalog.resolve t.target).type = some (.primitive q)) :
      NodeCode Q f t [.assign ⟨t.declares, t.targetExpr, f.cast t.source t.target t.sourceExpr⟩]
  | object {left right : List Member} {parts : ObjectParts} (inPlace : ¬ t.Called f.catalog)
      (source : (f.catalog.resolve t.source).type = some (.object left))
      (target : (f.catalog.resolve t.target).type = some (.object right))
      (fields : FieldsCode Q f t left right parts) :
      NodeCode Q f t (.build t.declares t.targetExpr (literalOpening f t.position t.target)
        parts.fields :: parts.after)
  | array {x y : Attribute} {body : List Stmt} (inPlace : ¬ t.Called f.catalog)
      (source : (f.catalog.resolve t.source).type = some (.array x))
      (target : (f.catalog.resolve t.target).type = some (.array y))
      (element : Q (t.element x y) body) :
      NodeCode Q f t
        [.assign ⟨t.declares, t.targetExpr, .make (f.targetRef t.target) t.sourceExpr⟩,
          .range (loopVar "i" t.depth) (loopVar "val" t.depth) t.sourceExpr [] body]
  | map {leftKey x rightKey y : Attribute} {body : List Stmt} (inPlace : ¬ t.Called f.catalog)
      (source : (f.catalog.resolve t.source).type = some (.map leftKey x))
      (target : (f.catalog.resolve t.target).type = some (.map rightKey y))
      (value : Q (t.value x y) body) :
      NodeCode Q f t
        [.assign ⟨t.declares, t.targetExpr, .make (f.targetRef t.target) t.sourceExpr⟩,
          .range (loopVar "key" t.depth) (loopVar "val" t.depth) t.sourceExpr
            [⟨true, .var (loopVar "tk" t.depth),
              f.cast leftKey rightKey (.var (loopVar "key" t.depth))⟩] body]
  | union {left right : List Member} {cases : List TypeCase} (inPlace : ¬ t.Called f.catalog)
      (source : (f.catalog.resolve t.source).type = some (.union left))
      (target : (f.catalog.resolve t.target).type = some (.union right))
      (members : CasesCode Q f t right left cases) :
      NodeCode Q f t
        ((if t.declares then [.declare t.targetExpr (f.targetRef t.target)] else []) ++
          [.typeSwitch (loopVar "actual" t.depth) t.sourceExpr cases])

section Parts

variable {Q : Task → List Stmt → Prop} {f : Frame} {t : Task} {left right fields : List Member}
  {parts : ObjectParts} {cases' : List TypeCase} {x y : Member}

theorem FieldsCode.primitive_stands (code : FieldsCode Q f t left fields parts) (mem : y ∈ fields)
    (found : Members.find? left y.name = some x) (both : BothPrimitive f.catalog x.attr y.attr) :
    (primitiveParts f t x y).after <:+: parts.after := by
  induction code with
  | nil => cases mem
  | absent missing _ ih =>
    rcases List.mem_cons.mp mem with rfl | later
    · exact nomatch missing.symm.trans found
    · exact ih later
  | primitive found' _ _ ih =>
    rcases List.mem_cons.mp mem with rfl | later
    · obtain rfl := Option.some.inj (found'.symm.trans found)
      exact (List.prefix_append _ _).isInfix
    · exact (ih later).trans (List.suffix_append _ _).isInfix
  | compound found' compound _ _ ih =>
    rcases List.mem_cons.mp mem with rfl | later
    · obtain rfl := Option.some.inj (found'.symm.trans found)
      exact absurd both compound
    · exact (ih later).trans (List.suffix_append _ _).isInfix

theorem FieldsCode.compound_stands (code : FieldsCode Q f t left fields parts) (mem : y ∈ fields)
    (found : Members.find? left y.name = some x)
    (compound : ¬ BothPrimitive f.catalog x.attr y.attr) :
    ∃ inner, Q (t.field x y) inner ∧
      nestedField f y.attr (t.field x y).sourceExpr inner <:+: parts.after := by
  induction code with
  | nil => cases mem
  | absent missing _ ih =>
    rcases List.mem_cons.mp mem with rfl | later
    · exact nomatch missing.symm.trans found
    · exact ih later
  | primitive found' both _ ih =>
    rcases List.mem_cons.mp mem with rfl | later
    · obtain rfl := Option.some.inj (found'.symm.trans found)
      exact absurd both compound
    · obtain ⟨inner, code, stands⟩ := ih later
      exact ⟨inner, code, stands.trans (List.suffix_append _ _).isInfix⟩
  | compound found' _ here _ ih =>
    rcases List.mem_cons.mp mem with rfl | later
    · obtain rfl := Option.some.inj (found'.symm.trans found)
      exact ⟨_, here, (List.prefix_append _ _).isInfix⟩
    · obtain ⟨inner, code, stands⟩ := ih later
      exact ⟨inner, code, stands.trans (List.suffix_append _ _).isInfix⟩

theorem FieldsCode.mem_after (code : FieldsCode Q f t left fields parts) {stmt : Stmt}
    (mem : stmt ∈ parts.after) : ∃ y ∈ fields, ∃ x, Members.find? left y.name = some x ∧
      ((BothPrimitive f.catalog x.attr y.attr ∧ stmt ∈ (primitiveParts f t x y).after) ∨
        ¬ BothPrimitive f.catalog x.attr y.attr ∧ ∃ inner, Q (t.field x y) inner ∧
          stmt ∈ nestedField f y.attr (t.field x y).sourceExpr inner) := by
  induction code with
  | nil => cases mem
  | absent _ _ ih =>
    obtain ⟨y, later, found⟩ := ih mem
    exact ⟨y, List.mem_cons_of_mem _ later, found⟩
  | primitive found both _ ih =>
    rcases List.mem_append.mp mem with here | others
    · exact ⟨_, List.mem_cons_self, _, found, .inl ⟨both, here⟩⟩
    · obtain ⟨y, later, found⟩ := ih others
      exact ⟨y, List.mem_cons_of_mem _ later, found⟩
  | compound found compound inner _ ih =>
    rcases List.mem_append.mp mem with here | others
    · exact ⟨_, List.mem_cons_self, _, found, .inr ⟨compound, _, inner, here⟩⟩
    · obtain ⟨y, later, found⟩ := ih others
      exact ⟨y, List.mem_cons_of_mem _ later, found⟩

theorem CasesCode.stands (code : CasesCode Q f t right left cases') (mem : x ∈ left)
    (found : Members.find? right x.name = some y) :
    ∃ inner, Q (t.member x y) inner ∧ ⟨f.sourceRef x.attr, inner⟩ ∈ cases' := by
  induction code with
  | nil => cases mem
  | cons found' here _ ih =>
    rcases List.mem_cons.mp mem with rfl | later
    · obtain rfl := Option.some.inj (found'.symm.trans found)
      exact ⟨_, here, List.mem_cons_self⟩
    · obtain ⟨inner, code, stands⟩ := ih later
      exact ⟨inner, code, List.mem_cons_of_mem _ stands⟩

theorem CasesCode.of_mem (code : CasesCode Q f t right left cases') {k : TypeCase}
    (mem : k ∈ cases') :
    ∃ x ∈ left, ∃ y, Members.find? right x.name = some y ∧ Q (t.member x y) k.body := by
  induction code with
  | nil => cases mem
  | cons found here _ ih =>
    rcases List.mem_cons.mp mem with rfl | later
    · exact ⟨_, List.mem_cons_self, _, found, here⟩
    · obtain ⟨x, mem, rest⟩ := ih later
      exact ⟨x, List.mem_cons_of_mem _ mem, rest⟩

end Parts

variable {f : Frame} {t : Task} {convert : Task → Emit (List Stmt)} {s s' : Emitted}
  {body : List Stmt}

theorem bothPrimitive_iff {c : Catalog} {x y : Attribute} :
    BothPrimitive c x y ↔
      ((c.resolvedPrimitive? x).isSome && (c.resolvedPrimitive? y).isSome) = true :=
  Bool.and_eq_true_iff.symm

theorem requireHelper_name {x y : Attribute} {name : String}
    (run : requireHelper f convert x y s = .ok (name, s')) : name = f.helperName x y := by
  by_cases known : f.helperName x y ∈ s.names
  · rw [Contract.requireHelper_known known] at run
    cases run
    rfl
  · rw [Contract.requireHelper_new known] at run
    split at run
    · cases run
      rfl
    · cases run

def Gets (convert : Task → Emit (List Stmt)) (t : Task) (body : List Stmt) : Prop :=
  ∃ s s', convert t s = .ok (body, s')

theorem fieldsCode_of_run {left fields : List Member} {parts : ObjectParts}
    (run : objectParts f convert t (f.catalog.resolve t.source) (f.catalog.resolve t.target) left
      fields s = .ok (parts, s')) :
    FieldsCode (Gets convert) f t left fields parts := by
  induction fields generalizing s parts with
  | nil =>
    cases run
    exact .nil
  | cons y rest ih =>
    unfold objectParts at run
    cases found : Members.find? left y.name with
    | none =>
      rw [found] at run
      exact .absent found (ih run)
    | some x =>
      rw [found] at run
      dsimp only at run
      split at run
      · rename_i primitive
        obtain ⟨own, between, here, run⟩ := Contract.bind_run_ok run
        cases here
        obtain ⟨others, last, run, done⟩ := Contract.bind_run_ok run
        cases done
        exact .primitive found (bothPrimitive_iff.mpr primitive) (ih run)
      · rename_i compound
        obtain ⟨body, middle, inner, run⟩ := Contract.bind_run_ok run
        obtain ⟨own, between, here, run⟩ := Contract.bind_run_ok run
        cases here
        obtain ⟨others, last, run, done⟩ := Contract.bind_run_ok run
        cases done
        exact .compound found (fun both => compound (bothPrimitive_iff.mp both)) ⟨_, _, inner⟩
          (ih run)

theorem casesCode_of_run {right members : List Member} {seen : List String}
    {cases' : List TypeCase}
    (run : unionCases f convert t right seen members s = .ok (cases', s')) :
    CasesCode (Gets convert) f t right members cases' := by
  induction members generalizing s seen cases' with
  | nil =>
    cases run
    exact .nil
  | cons x rest ih =>
    unfold unionCases at run
    cases found : Members.find? right x.name with
    | none =>
      rw [found] at run
      cases run
    | some y =>
      rw [found] at run
      dsimp only at run
      split at run
      · cases run
      · obtain ⟨body, between, inner, run⟩ := Contract.bind_run_ok run
        obtain ⟨others, last, run, done⟩ := Contract.bind_run_ok run
        cases done
        exact .cons found ⟨_, _, inner⟩ (ih run)

/-- A level that succeeds has written its code from that of its parts. -/
theorem nodeCode_of_run (run : convertNode f convert t s = .ok (body, s')) :
    NodeCode (Gets convert) f t body := by
  obtain ⟨node, same, run⟩ : ∃ node, convertNode f convert t = node ∧ node s = .ok (body, s') :=
    ⟨_, rfl, run⟩
  unfold convertNode at same
  split at same
  · rw [← same] at run
    cases run
  dsimp only at same
  split at same
  · rename_i called
    obtain ⟨nested, left, right, compound⟩ := called
    rw [← same] at run
    obtain ⟨name, between, helper, done⟩ := Contract.bind_run_ok run
    cases done
    rw [requireHelper_name helper]
    exact .call ⟨nested, left, right, compound⟩
  rename_i uncalled
  have inPlace : ¬ t.Called f.catalog := fun called =>
    uncalled ⟨called.nested, called.needed.source, called.needed.target, called.needed.compound⟩
  split at same
  · rename_i source target
    rw [← same] at run
    cases run
    exact .primitive inPlace source target
  · rename_i left right source target
    rw [← same] at run
    obtain ⟨parts, between, fields, done⟩ := Contract.bind_run_ok run
    cases done
    exact .object inPlace source target (fieldsCode_of_run fields)
  · rename_i x y source target
    rw [← same] at run
    obtain ⟨inner, between, element, done⟩ := Contract.bind_run_ok run
    cases done
    exact .array inPlace source target ⟨_, _, element⟩
  · rename_i leftKey x rightKey y source target
    rw [← same] at run
    unfold convertMap at run
    split at run
    · cases run
    · obtain ⟨inner, between, value, done⟩ := Contract.bind_run_ok run
      cases done
      exact .map inPlace source target ⟨_, _, value⟩
  · rename_i left right source target
    rw [← same] at run
    obtain ⟨cases', between, members, done⟩ := Contract.bind_run_ok run
    cases done
    exact .union inPlace source target (casesCode_of_run members)
  · rw [← same] at run
    cases run
  · rw [← same] at run
    cases run

end Toolbridge.Conversion
