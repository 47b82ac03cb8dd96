import Toolbridge.Proofs.Conversion.Helpers
import Toolbridge.Proofs.Conversion.Levels
import Toolbridge.Proofs.Plan.NilGuards

set_option autoImplicit false

namespace Toolbridge.Conversion

open Go (Expr Stmt TypeCase)

/-- Which pairs of a source field and a target field are converted behind a check. -/
abbrev CheckRule := Attribute → Attribute → Prop

mutual
/-- The code for a task, with a check in front of every nested field for which the rule asks. -/
inductive NilChecked (rule : CheckRule) (f : Frame) : Task → List Stmt → Prop
  | primitive {t : Task} {p q : Primitive}
      (source : (f.catalog.resolve t.source).type = some (.primitive p))
      (target : (f.catalog.resolve t.target).type = some (.primitive q)) :
      NilChecked rule f t
        [.assign ⟨t.declares, t.targetExpr, f.cast t.source t.target t.sourceExpr⟩]
  | call {t : Task} (nested : t.position = .nested)
      (needed : NeedsHelper f.catalog t.source t.target) :
      NilChecked rule f t [.assign ⟨t.declares, t.targetExpr,
        .call (f.helperName t.source t.target) t.sourceExpr⟩]
  | object {t : Task} {left right : List Member} {parts : ObjectParts}
      (source : (f.catalog.resolve t.source).type = some (.object left))
      (target : (f.catalog.resolve t.target).type = some (.object right))
      (fields : FieldsNilChecked rule f t left right parts) :
      NilChecked rule f t (.build t.declares t.targetExpr (literalOpening f t.position t.target)
        parts.fields :: parts.after)
  | array {t : Task} {x y : Attribute} {body : List Stmt}
      (source : (f.catalog.resolve t.source).type = some (.array x))
      (target : (f.catalog.resolve t.target).type = some (.array y))
      (element : NilChecked rule f (t.element x y) body) :
      NilChecked rule f t
        [.assign ⟨t.declares, t.targetExpr, .make (f.targetRef t.target) t.sourceExpr⟩,
          .range (loopVar "i" t.depth) (loopVar "val" t.depth) t.sourceExpr [] body]
  | map {t : Task} {leftKey x rightKey y : Attribute} {body : List Stmt}
      (source : (f.catalog.resolve t.source).type = some (.map leftKey x))
      (target : (f.catalog.resolve t.target).type = some (.map rightKey y))
      (value : NilChecked rule f (t.value x y) body) :
      NilChecked rule f t
        [.assign ⟨t.declares, t.targetExpr, .make (f.targetRef t.target) t.sourceExpr⟩,
          .range (loopVar "key" t.depth) (loopVar "val" t.depth) t.sourceExpr
            [⟨true, .var (loopVar "tk" t.depth),
              f.cast leftKey rightKey (.var (loopVar "key" t.depth))⟩] body]
  | union {t : Task} {left right : List Member} {cases : List TypeCase}
      (source : (f.catalog.resolve t.source).type = some (.union left))
      (target : (f.catalog.resolve t.target).type = some (.union right))
      (members : CasesNilChecked rule f t right left cases) :
      NilChecked rule f t
        ((if t.declares then [.declare t.targetExpr (f.targetRef t.target)] else []) ++
          [.typeSwitch (loopVar "actual" t.depth) t.sourceExpr cases])

inductive FieldsNilChecked (rule : CheckRule) (f : Frame) :
    Task → List Member → List Member → ObjectParts → Prop
  | nil {t : Task} {left : List Member} : FieldsNilChecked rule f t left [] {}
  | absent {t : Task} {left rest : List Member} {y : Member} {parts : ObjectParts}
      (missing : Members.find? left y.name = none)
      (others : FieldsNilChecked rule f t left rest parts) :
      FieldsNilChecked rule f t left (y :: rest) parts
  | primitive {t : Task} {left rest : List Member} {x y : Member} {parts : ObjectParts}
      (found : Members.find? left y.name = some x)
      (primitive : BothPrimitive f.catalog x.attr y.attr)
      (others : FieldsNilChecked rule f t left rest parts) :
      FieldsNilChecked rule f t left (y :: rest)
        ((primitiveField f
          (f.catalog.isPrimitivePointer (f.catalog.resolve t.source) x.name f.source.useDefault)
          (f.catalog.isPrimitivePointer (f.catalog.resolve t.target) y.name f.target.useDefault)
          x.attr y.attr (Go.identifier true y.name) (t.field x y).sourceExpr
          (t.field x y).targetExpr).append parts)
  | checked {t : Task} {left rest : List Member} {x y : Member} {parts : ObjectParts}
      {body : List Stmt} (found : Members.find? left y.name = some x)
      (compound : ¬ BothPrimitive f.catalog x.attr y.attr)
      (inner : NilChecked rule f (t.field x y) body) (asked : rule x.attr y.attr)
      (others : FieldsNilChecked rule f t left rest parts) :
      FieldsNilChecked rule f t left (y :: rest)
        (ObjectParts.append { after := [.unlessNil (t.field x y).sourceExpr body] } parts)
  | unchecked {t : Task} {left rest : List Member} {x y : Member} {parts : ObjectParts}
      {body : List Stmt} (found : Members.find? left y.name = some x)
      (compound : ¬ BothPrimitive f.catalog x.attr y.attr)
      (inner : NilChecked rule f (t.field x y) body) (unasked : ¬ rule x.attr y.attr)
      (others : FieldsNilChecked rule f t left rest parts) :
      FieldsNilChecked rule f t left (y :: rest)
        (ObjectParts.append { after := body } parts)

inductive CasesNilChecked (rule : CheckRule) (f : Frame) :
    Task → List Member → List Member → List TypeCase → Prop
  | nil {t : Task} {right : List Member} : CasesNilChecked rule f t right [] []
  | cons {t : Task} {right rest : List Member} {x y : Member} {body : List Stmt}
      {cases : List TypeCase} (found : Members.find? right x.name = some y)
      (inner : NilChecked rule f (t.member x y) body)
      (others : CasesNilChecked rule f t right rest cases) :
      CasesNilChecked rule f t right (x :: rest) (⟨f.sourceRef x.attr, body⟩ :: cases)
end

def targetRule : CheckRule := fun _ y => y.isStruct = false

def sourceRule : CheckRule := fun x _ => x.isStruct = false

section Steps

variable {rule : CheckRule} {f : Frame} {t : Task} {convert : Task → Emit (List Stmt)}
  {s s' : Emitted} {body : List Stmt}

theorem isStruct_eq (c : Catalog) (y : Attribute) :
    ((c.userType? y).isNone && c.isObject y) = y.isStruct := by
  cases type : c.userType? y with
  | none =>
    unfold Catalog.isObject Attribute.isStruct
    rw [Catalog.resolve_of_direct type]
    rfl
  | some u =>
    unfold Attribute.isStruct
    rcases Catalog.type_eq_of_userType? type with ⟨id, shape, -⟩ | ⟨name, inner, shape, -⟩
    · rw [shape]
      rfl
    · rw [shape]
      rfl

theorem nestedField_eq (y : Attribute) (e : Expr) (body : List Stmt) :
    nestedField f y e body = if y.isStruct then body else [.unlessNil e body] := by
  unfold nestedField
  rw [isStruct_eq]

/-- What is asked of the level below: its code keeps the rule at the pairs that `p` leads to. -/
def Keeping (rule : CheckRule) (f : Frame) (convert : Task → Emit (List Stmt))
    (p : Attribute × Attribute) : Prop :=
  ∀ u : Task, LeadsTo f.catalog p (u.source, u.target) → ∀ s body s',
    convert u s = .ok (body, s') → NilChecked rule f u body

theorem fieldsNilChecked {left right fields : List Member} {parts : ObjectParts}
    (below : Keeping rule f convert (t.source, t.target))
    (source : (f.catalog.resolve t.source).type = some (.object left))
    (target : (f.catalog.resolve t.target).type = some (.object right))
    (fits : ∀ y ∈ right, ∀ x, Members.find? left y.name = some x →
      (rule x.attr y.attr ↔ y.attr.isStruct = false))
    (sub : fields ⊆ right) (code : FieldsCode (Gets convert) f t left fields parts) :
    FieldsNilChecked rule f t left fields parts := by
  induction code with
  | nil => exact .nil
  | absent missing _ ih => exact .absent missing (ih (List.subset_of_cons_subset sub))
  | primitive found primitive _ ih =>
    exact .primitive found primitive (ih (List.subset_of_cons_subset sub))
  | @compound rest x y parts body found compound inner _ ih =>
    have mem : y ∈ right := sub List.mem_cons_self
    have others := ih (List.subset_of_cons_subset sub)
    obtain ⟨s, s', run⟩ := inner
    have checked := below (t.field x y) (.field source target mem found) _ _ _ run
    rw [nestedField_eq]
    cases struct : y.attr.isStruct with
    | true =>
      refine .unchecked found compound checked (fun asked => ?_) others
      rw [(fits y mem x found).mp asked] at struct
      cases struct
    | false => exact .checked found compound checked ((fits y mem x found).mpr struct) others

theorem casesNilChecked {left right members : List Member} {cases' : List TypeCase}
    (below : Keeping rule f convert (t.source, t.target))
    (source : (f.catalog.resolve t.source).type = some (.union left))
    (target : (f.catalog.resolve t.target).type = some (.union right))
    (sub : members ⊆ left) (code : CasesCode (Gets convert) f t right members cases') :
    CasesNilChecked rule f t right members cases' := by
  induction code with
  | nil => exact .nil
  | cons found inner _ ih =>
    obtain ⟨s, s', run⟩ := inner
    have step := LeadsTo.member source target (sub List.mem_cons_self) found
    exact .cons found (below _ step _ _ _ run) (ih (List.subset_of_cons_subset sub))

theorem nilChecked_convertNode (below : Keeping rule f convert (t.source, t.target))
    (fits : ∀ left right, (f.catalog.resolve t.source).type = some (.object left) →
      (f.catalog.resolve t.target).type = some (.object right) →
        ∀ y ∈ right, ∀ x, Members.find? left y.name = some x →
          (rule x.attr y.attr ↔ y.attr.isStruct = false))
    (run : convertNode f convert t s = .ok (body, s')) : NilChecked rule f t body := by
  cases nodeCode_of_run run with
  | call called => exact .call called.nested called.needed
  | primitive _ source target => exact .primitive source target
  | object _ source target fields =>
    exact .object source target (fieldsNilChecked below source target (fits _ _ source target)
      (List.Subset.refl _) fields)
  | array _ source target element =>
    obtain ⟨_, _, run⟩ := element
    exact .array source target (below _ (.element source target) _ _ _ run)
  | map _ source target value =>
    obtain ⟨_, _, run⟩ := value
    exact .map source target (below _ (.value source target) _ _ _ run)
  | union _ source target members =>
    exact .union source target (casesNilChecked below source target (List.Subset.refl _) members)

end Steps

/-- A pair of fields that the conversion of `a` into `b` comes to. -/
def FieldPair (c : Catalog) (a b x y : Attribute) : Prop :=
  ∃ p : Attribute × Attribute, Relation.ReflTransGen (LeadsTo c) (a, b) p ∧
    ∃ left right, (c.resolve p.1).type = some (.object left) ∧
      (c.resolve p.2).type = some (.object right) ∧
        ∃ m ∈ right, ∃ other, Members.find? left m.name = some other ∧ x = other.attr ∧ y = m.attr

/-- The body keeps the rule, and so do the bodies of the helpers, behind what guards them. -/
structure Code.KeepsRule (code : Code) (c : Catalog) (r : ConversionRequest) (rule : CheckRule) :
    Prop where
  body : NilChecked rule (frameOf c r) (taskOf r) code.body
  helpers : ∀ h ∈ code.helpers, ∃ x y body, Place c r.source r.target x y ∧
    h.name = (frameOf c r).helperName x y ∧ h.body = guarded (frameOf c r) x body ∧
      NilChecked rule (frameOf c r) (Contract.helperTask x y) body

section Whole

variable {rule : CheckRule} {f : Frame} {t : Task} {a b : Attribute} {s s' : Emitted}
  {body : List Stmt} {c : Catalog} {r : ConversionRequest} {code : Code}

/-- A rule is kept at all depths if it goes by the target at the fields that are come to. -/
theorem nilChecked_convertWithin {depth : Nat}
    (fits : ∀ x y, FieldPair f.catalog a b x y → (rule x y ↔ targetRule x y))
    (under : Relation.ReflTransGen (LeadsTo f.catalog) (a, b) (t.source, t.target))
    (run : convertWithin f depth t s = .ok (body, s')) : NilChecked rule f t body := by
  induction depth generalizing t s s' body with
  | zero => cases run
  | succ depth ih =>
    refine nilChecked_convertNode (fun u step _ _ _ inner => ih (under.tail step) inner) ?_ run
    intro left right source target y mem x found
    exact fits x.attr y.attr
      ⟨_, under, left, right, source, target, y, mem, x, found, rfl, rfl⟩

theorem keepsRule_of_build (built : build c r = .ok code)
    (fits : ∀ x y, FieldPair c r.source r.target x y → (rule x y ↔ targetRule x y)) :
    code.KeepsRule c r rule := by
  constructor
  · obtain ⟨emitted, run, -⟩ := build_eq_ok.mp built
    have start : Relation.ReflTransGen (LeadsTo (frameOf c r).catalog) (r.source, r.target)
        ((taskOf r).source, (taskOf r).target) := .refl
    exact nilChecked_convertWithin fits start run
  · intro h mem
    obtain ⟨x, y, place, converts⟩ := (complete_of_build built).made h mem
    obtain ⟨depth, body, s, s', run, same⟩ := converts.body
    exact ⟨x, y, body, place, converts.name, same,
      nilChecked_convertWithin fits place.nested.to_reflTransGen run⟩

theorem nilable_compound {x : Attribute} {shape : DataType} (package : String)
    (resolved : (c.resolve x).type = some shape) (known : shape.kind ≠ .userType)
    (compound : shape.kind ≠ .primitive) :
    Planner.Nilable c x (Go.typeRef c package x) ↔ x.isStruct = false := by
  have notPrimitive : c.resolvedPrimitive? x = none := by
    unfold Catalog.resolvedPrimitive? Attribute.primitive?
    rw [resolved]
    cases shape with
    | primitive q => exact absurd rfl compound
    | _ => rfl
  cases struct : x.isStruct with
  | true => exact iff_of_false (Planner.not_nilable_struct struct) nofun
  | false =>
    refine iff_of_true ?_ rfl
    cases type : c.userType? x with
    | some u =>
      refine Planner.nilable_userType type ?_ ⟨shape, resolved, known⟩
      rw [notPrimitive]
      rfl
    | none =>
      have own : c.resolve x = x := Catalog.resolve_of_direct type
      have full : x.isEmpty = false := by
        rw [own] at resolved
        rw [Attribute.isEmpty, resolved]
        rfl
      have plain : x.isPrimitive = false := by
        rw [Catalog.resolvedPrimitive?, own] at notPrimitive
        rw [Attribute.isPrimitive, notPrimitive]
        rfl
      exact Planner.nilable_direct type full struct plain

end Whole

/-- Nested fields are checked just if their target is no object declared in place. What is read can
be nil just if the source is none, so the checks stand where they should if the two sides of each
pair of fields agree in this. -/
theorem nil_checks_follow_targets {c : Catalog} {r : ConversionRequest} {code : Code}
    (built : build c r = .ok code) :
    code.KeepsRule c r targetRule ∧
    ((∀ x y, FieldPair c r.source r.target x y → x.isStruct = y.isStruct) →
      code.KeepsRule c r sourceRule) ∧
    ∀ x shape, (c.resolve x).type = some shape → shape.kind ≠ .userType →
      shape.kind ≠ .primitive →
        (Planner.Nilable c x (r.sourceSide.typeRef c x) ↔ x.isStruct = false) := by
  refine ⟨keepsRule_of_build built fun _ _ _ => .rfl, fun agree => ?_, ?_⟩
  · refine keepsRule_of_build built fun x y pair => ?_
    rw [sourceRule, targetRule, agree x y pair]
  · intro x shape resolved known compound
    exact nilable_compound r.sourceSide.package resolved known compound

/-! A document and a note, each a user type on one side and declared in place on the other. -/
namespace Mixed

def record : Attribute :=
  { type := some (.object [⟨"id", .ofType (.primitive .string)⟩]), required := ["id"] }

def catalog : Catalog := ⟨[{ name := "Doc", body := record }]⟩

def reference : Attribute := .ofType (.user 0)

def holder (doc note : Attribute) : Attribute := .ofType (.object [⟨"doc", doc⟩, ⟨"note", note⟩])

def request (source target : Attribute) : ConversionRequest :=
  { source, target, sourceVar := "v", targetVar := "res", sourceSide := ⟨"", true⟩,
    targetSide := ⟨"", true⟩, helperPrefix := "", byReference := true }

def crossed : ConversionRequest := request (holder reference record) (holder record reference)

def isCheck : Stmt → Bool
  | .unlessNil _ _ => true
  | _ => false

def summary? (r : ConversionRequest) : Option (List Bool × ConversionOutput) :=
  (build catalog r).toOption.map fun code => (code.body.map isCheck, code.render)

theorem built_of_summary {r : ConversionRequest} {checks : List Bool} {output : ConversionOutput}
    (h : summary? r = some (checks, output)) :
    ∃ code, build catalog r = .ok code ∧ code.body.map isCheck = checks ∧ code.render = output := by
  obtain ⟨code, outcome, same⟩ := Option.map_eq_some_iff.mp h
  obtain ⟨rfl, rfl⟩ := (Prod.mk.injEq ..).mp same
  refine ⟨code, ?_, rfl, rfl⟩
  cases run : build catalog r with
  | error e =>
    rw [run] at outcome
    cases outcome
  | ok other =>
    rw [run] at outcome
    cases outcome
    rfl

def crossedText : String :=
  "res := struct \x7b Doc struct \x7b ID string \x7d; Note *Doc \x7d\x7b\x7d\n" ++
    "res.Doc = struct \x7b ID string \x7d\x7b\n\tID: v.Doc.ID,\n\x7d\n" ++
    "if v.Note != nil \x7b\n\tres.Note = &Doc\x7b\n\t\tID: v.Note.ID,\n\t\x7d\n\x7d\n"

/-- The document is read without a check although it is behind a pointer, and the note, a struct, is
compared with nil. -/
theorem document_unchecked :
    ∃ code, build catalog crossed = .ok code ∧ code.render = ⟨crossedText, []⟩ ∧
      crossed.sourceSide.typeRef catalog reference = "*Doc" ∧
      crossed.sourceSide.typeRef catalog record = "struct \x7b ID string \x7d" ∧
      ¬ code.KeepsRule catalog crossed sourceRule := by
  have computed : summary? crossed = some ([false, false, true], ⟨crossedText, []⟩) := by
    decide +kernel
  obtain ⟨⟨body, helpers⟩, built, checks, text⟩ := built_of_summary computed
  refine ⟨_, built, text, by decide +kernel, by decide +kernel, fun kept => ?_⟩
  have rooted : (taskOf crossed).position ≠ .nested := nofun
  have source : ((frameOf catalog crossed).catalog.resolve (taskOf crossed).source).type =
    some (.object [⟨"doc", reference⟩, ⟨"note", record⟩]) := rfl
  have target : ((frameOf catalog crossed).catalog.resolve (taskOf crossed).target).type =
    some (.object [⟨"doc", record⟩, ⟨"note", reference⟩]) := rfl
  have first : Members.find? [⟨"doc", reference⟩, ⟨"note", record⟩] "doc" =
    some ⟨"doc", reference⟩ := rfl
  cases kept.body with
  | call nested => exact rooted nested
  | object source' target' fields =>
    rw [source] at source'
    rw [target] at target'
    cases source'
    cases target'
    cases fields with
    | absent missing => exact nomatch first.symm.trans missing
    | primitive found both =>
      obtain rfl := Option.some.inj (first.symm.trans found)
      exact nomatch both.1
    | checked => exact nomatch checks
    | unchecked found _ _ unasked =>
      obtain rfl := Option.some.inj (first.symm.trans found)
      exact unasked rfl
  | _ source' => exact nomatch source.symm.trans source'

def cover : Attribute := .ofType (.object [⟨"doc", reference⟩])

def copied : ConversionRequest := request cover cover

theorem only_field {x : Attribute} {m : Member} {q : Attribute × Attribute}
    (shape : (catalog.resolve x).type = some (.object [m])) (step : LeadsTo catalog (x, x) q) :
    q = (m.attr, m.attr) := by
  cases step with
  | field source target mem found =>
    rw [shape] at source target
    cases source
    cases target
    obtain rfl := List.mem_singleton.mp mem
    rw [List.mem_singleton.mp (Members.find?_mem found).1]
  | _ source => exact nomatch shape.symm.trans source

theorem copied_pairs {q : Attribute × Attribute}
    (path : Relation.ReflTransGen (LeadsTo catalog) (cover, cover) q) :
    q.1 = q.2 ∧ (q.1 = cover ∨ q.1 = reference ∨ q.1 = .ofType (.primitive .string)) := by
  induction path with
  | refl => exact ⟨rfl, .inl rfl⟩
  | @tail p q path step ih =>
    obtain ⟨x, y⟩ := p
    obtain ⟨same, here⟩ := ih
    obtain rfl : x = y := same
    rcases here with same | same | same
    · obtain rfl : x = cover := same
      rw [only_field rfl step]
      exact ⟨rfl, .inr (.inl rfl)⟩
    · obtain rfl : x = reference := same
      rw [only_field rfl step]
      exact ⟨rfl, .inr (.inr rfl)⟩
    · obtain rfl : x = .ofType (.primitive .string) := same
      cases step with
      | _ source => exact nomatch source

theorem document_checked :
    ∃ code, build catalog copied = .ok code ∧ code.body.map isCheck = [false, true] ∧
      code.KeepsRule catalog copied sourceRule ∧
      Planner.Nilable catalog reference (copied.sourceSide.typeRef catalog reference) := by
  have computed : (summary? copied).map (·.1) = some [false, true] := by decide +kernel
  obtain ⟨⟨checks, output⟩, summary, rfl⟩ := Option.map_eq_some_iff.mp computed
  obtain ⟨code, built, checks, -⟩ := built_of_summary summary
  obtain ⟨-, agreeing, nilable⟩ := nil_checks_follow_targets built
  refine ⟨code, built, checks, agreeing ?_, ?_⟩
  · rintro x y ⟨p, path, left, right, source, target, m, mem, other, found, rfl, rfl⟩
    have step : LeadsTo catalog p (other.attr, m.attr) := .field source target mem found
    exact congrArg Attribute.isStruct (copied_pairs (path.tail step)).1
  · exact (nilable reference (.object [⟨"id", .ofType (.primitive .string)⟩]) rfl nofun nofun).mpr
      rfl

end Mixed

end Toolbridge.Conversion
