import Toolbridge.Proofs.Conversion.Helpers
import Toolbridge.Proofs.Conversion.Levels
import Toolbridge.Proofs.Go.Fields

set_option autoImplicit false

namespace Toolbridge.Conversion

open Go (Expr Stmt blockText)

/-- How text begins that builds a value of the type spelled `reference` from `sourceVar`, whose type
is spelled `sourceRef`. The kind is that of the target. -/
inductive Opening (sourceVar targetVar sourceRef reference : String) : Kind → String → Prop where
  | converted :
      Opening sourceVar targetVar sourceRef reference .primitive
        (targetVar ++ " := " ++ reference ++ "(" ++ sourceVar ++ ")\n")
  | copied (same : sourceRef = reference) :
      Opening sourceVar targetVar sourceRef reference .primitive
        (targetVar ++ " := " ++ sourceVar ++ "\n")
  | address (value rest : String) (pointer : reference = "*" ++ value) :
      Opening sourceVar targetVar sourceRef reference .object
        (targetVar ++ " := &" ++ value ++ "\x7b" ++ rest)
  | literal (rest : String) (plain : Go.isPointerRef reference = false) :
      Opening sourceVar targetVar sourceRef reference .object
        (targetVar ++ " := " ++ reference ++ "\x7b" ++ rest)
  | made {kind : Kind} (sized : kind = .array ∨ kind = .map) (rest : String) :
      Opening sourceVar targetVar sourceRef reference kind
        (targetVar ++ " := make(" ++ reference ++ ", len(" ++ sourceVar ++ "))\n" ++ rest)
  | declared (rest : String) :
      Opening sourceVar targetVar sourceRef reference .union
        ("var " ++ targetVar ++ " " ++ reference ++ "\n" ++ rest)

/-- The statements that build the target of a task, by the kind that both sides resolve to. -/
inductive Builds (f : Frame) (t : Task) : Kind → List Stmt → Prop where
  | primitive :
      Builds f t .primitive
        [.assign ⟨true, t.targetExpr, f.cast t.source t.target t.sourceExpr⟩]
  | object (fields : List (String × Expr)) (rest : List Stmt) :
      Builds f t .object
        (.build true t.targetExpr (literalOpening f t.position t.target) fields :: rest)
  | sized {kind : Kind} (sized : kind = .array ∨ kind = .map) (rest : List Stmt) :
      Builds f t kind
        (.assign ⟨true, t.targetExpr, .make (f.targetRef t.target) t.sourceExpr⟩ :: rest)
  | union (rest : List Stmt) :
      Builds f t .union (.declare t.targetExpr (f.targetRef t.target) :: rest)

def kind? (c : Catalog) (a : Attribute) : Option Kind := (c.resolve a).type.map (·.kind)

section Statements

variable {f : Frame} {t : Task} {convert : Task → Emit (List Stmt)} {s s' : Emitted}
  {body : List Stmt}

theorem builds_convertNode (declares : t.declares = true) (outer : t.position ≠ .nested)
    (run : convertNode f convert t s = .ok (body, s')) :
    ∃ kind, kind? f.catalog t.source = some kind ∧ kind? f.catalog t.target = some kind ∧
      Builds f t kind body := by
  have kinds : ∀ {x : Attribute} {shape : DataType}, (f.catalog.resolve x).type = some shape →
      kind? f.catalog x = some shape.kind := fun resolved => congrArg (Option.map _) resolved
  cases nodeCode_of_run run with
  | call called => exact absurd called.nested outer
  | primitive _ source target =>
    rw [declares]
    exact ⟨.primitive, kinds source, kinds target, .primitive⟩
  | object _ source target _ =>
    rw [declares]
    exact ⟨.object, kinds source, kinds target, .object _ _⟩
  | array _ source target _ =>
    rw [declares]
    exact ⟨.array, kinds source, kinds target, .sized (.inl rfl) _⟩
  | map _ source target _ =>
    rw [declares]
    exact ⟨.map, kinds source, kinds target, .sized (.inr rfl) _⟩
  | union _ source target _ =>
    rw [declares]
    exact ⟨.union, kinds source, kinds target, .union _⟩

theorem builds_convertWithin {depth : Nat} (declares : t.declares = true)
    (outer : t.position ≠ .nested) (run : convertWithin f depth t s = .ok (body, s')) :
    ∃ kind, kind? f.catalog t.source = some kind ∧ kind? f.catalog t.target = some kind ∧
      Builds f t kind body := by
  cases depth with
  | zero => cases run
  | succ depth => exact builds_convertNode declares outer run

end Statements

section Text

variable {f : Frame} {t : Task} {kind : Kind} {body : List Stmt}

theorem literalOpening_cases {position : Position} {target : Attribute}
    (byReference : position = .root → f.byReference = true) :
    (∃ value, f.targetRef target = "*" ++ value ∧
      literalOpening f position target = "&" ++ value) ∨
    (Go.isPointerRef (f.targetRef target) = false ∧
      literalOpening f position target = f.targetRef target) := by
  unfold literalOpening
  split
  · rename_i value chars
    refine .inl ⟨String.ofList value, ?_, if_neg ?_⟩
    · exact String.toList_injective (by simp [chars])
    · rintro ⟨root, byValue⟩
      rw [byReference root] at byValue
      cases byValue
  · rename_i plain
    refine .inr ⟨Bool.eq_false_iff.mpr fun pointer => ?_, rfl⟩
    obtain ⟨value, same⟩ := Go.isPointerRef_iff.mp pointer
    exact plain value.toList (by rw [same, String.toList_append]; rfl)

theorem blockText_assign (target value : Expr) (rest : List Stmt) :
    blockText (.assign ⟨true, target, value⟩ :: rest) =
      target.text ++ " := " ++ value.text ++ "\n" ++ blockText rest := rfl

theorem blockText_build (target : Expr) (opening : String) (fields : List (String × Expr))
    (rest : List Stmt) :
    ∃ text, blockText (.build true target opening fields :: rest) =
      target.text ++ " := " ++ opening ++ "\x7b" ++ text := by
  change ∃ text, Go.buildText true target opening fields ++ blockText rest = _
  cases fields with
  | nil =>
    refine ⟨"\x7d\n" ++ blockText rest, ?_⟩
    simp [← String.toList_inj, Go.buildText, Go.operator]
  | cons field fields =>
    let entries := (field :: fields).map fun f => "\t" ++ f.1 ++ ": " ++ f.2.text ++ ",\n"
    refine ⟨"\n" ++ String.join entries ++ "\x7d\n" ++ blockText rest, ?_⟩
    simp [← String.toList_inj, Go.buildText, Go.operator, entries]

theorem Builds.opening (byReference : t.position = .root → f.byReference = true)
    (h : Builds f t kind body) :
    Opening t.sourceExpr.text t.targetExpr.text (f.sourceRef t.source) (f.targetRef t.target) kind
      (blockText body) := by
  cases h with
  | primitive =>
    rw [blockText_assign, blockText, String.append_empty]
    unfold Frame.cast
    split
    · rename_i same
      exact .copied same
    · have text : t.targetExpr.text ++ " := " ++
          (Expr.convert (f.targetRef t.target) t.sourceExpr).text ++ "\n" = t.targetExpr.text ++
            " := " ++ f.targetRef t.target ++ "(" ++ t.sourceExpr.text ++ ")\n" := by
        simp [← String.toList_inj, Expr.text]
      rw [text]
      exact .converted
  | object fields rest =>
    obtain ⟨text, same⟩ := blockText_build t.targetExpr
      (literalOpening f t.position t.target) fields rest
    rw [same]
    rcases literalOpening_cases byReference with ⟨value, pointer, opening⟩ | ⟨plain, opening⟩
    · have front : t.targetExpr.text ++ " := " ++ ("&" ++ value) ++ "\x7b" ++ text =
          t.targetExpr.text ++ " := &" ++ value ++ "\x7b" ++ text := by
        simp [← String.toList_inj]
      rw [opening, front]
      exact .address value text pointer
    · rw [opening]
      exact .literal text plain
  | sized sized rest =>
    have text : blockText (.assign ⟨true, t.targetExpr, .make (f.targetRef t.target) t.sourceExpr⟩ ::
        rest) = t.targetExpr.text ++ " := make(" ++ f.targetRef t.target ++ ", len(" ++
          t.sourceExpr.text ++ "))\n" ++ blockText rest := by
      simp [← String.toList_inj, blockText_assign, Expr.text]
    rw [text]
    exact .made sized (blockText rest)
  | union rest => exact .declared (blockText rest)

/-- There is more than white space in it, whether or not the target is built by reference. -/
theorem Builds.not_blank (h : Builds f t kind body) : Text.isBlank (blockText body) = false := by
  have colon : ∀ front back : String, Text.isBlank (front ++ " := " ++ back) = false := by
    intro front back
    refine Text.isBlank_eq_false_of_mem (c := ':') ?_ (by decide)
    simp
  cases h with
  | primitive =>
    rw [blockText_assign, String.append_assoc, String.append_assoc]
    exact colon _ _
  | object fields rest =>
    obtain ⟨text, same⟩ := blockText_build t.targetExpr
      (literalOpening f t.position t.target) fields rest
    rw [same, String.append_assoc, String.append_assoc]
    exact colon _ _
  | sized sized rest =>
    rw [blockText_assign, String.append_assoc, String.append_assoc]
    exact colon _ _
  | union rest =>
    refine Text.isBlank_eq_false_of_mem (c := 'v') ?_ (by decide)
    change 'v' ∈ ("var " ++ t.targetExpr.text ++ " " ++ f.targetRef t.target ++ "\n" ++
      blockText rest).toList
    simp

end Text

section Pointers

variable {c : Catalog} {side : Go.Side} {a : Attribute} {t : UserType}

theorem isPointerRef_identifier (name : String) :
    Go.isPointerRef (Go.identifier true name) = false := by
  refine Bool.eq_false_iff.mpr fun pointer => ?_
  obtain ⟨rest, same⟩ := Go.isPointerRef_iff.mp pointer
  have star : '*' ∈ (Go.identifier true name).toList := by
    rw [same, String.toList_append]
    exact List.mem_append_left _ List.mem_cons_self
  have fits : Go.isIdentifierChar '*' = true := Go.identifier_chars true name '*' star
  cases fits

theorem isPointerRef_front {front : String} (filled : front ≠ "") (rest : String) :
    Go.isPointerRef (front ++ rest) = Go.isPointerRef front := by
  have nonempty : front.toList ≠ [] := fun empty => filled (String.toList_injective empty)
  unfold Go.isPointerRef
  rw [String.toList_append, List.head?_append_of_ne_nil _ nonempty]

theorem qualifier_eq (type : c.userType? a = some t) :
    Go.qualifier c side.package a =
      if (side.packageOf c a).isEmpty then "" else side.packageOf c a ++ "." := by
  simp only [Go.qualifier, Go.Side.packageOf, Catalog.location?, type, Option.bind_some]

/-- Where no package is spelled with a star in front, the star of a user type tells an object. -/
theorem isPointerRef_iff_isObject (unstarred : Go.isPointerRef (side.packageOf c a) = false)
    (type : c.userType? a = some t) :
    Go.isPointerRef (side.typeRef c a) = true ↔ c.isObject a = true := by
  refine ⟨fun pointer => ?_, Go.isPointerRef_object type⟩
  by_contra value
  have reference : side.typeRef c a =
      Go.qualifier c side.package a ++ Go.identifier true t.name := by
    rw [Go.Side.typeRef, Go.typeRef_userType type, Go.stem, if_neg value, String.empty_append]
  rw [reference, qualifier_eq type] at pointer
  split at pointer
  · rw [String.empty_append, isPointerRef_identifier] at pointer
    cases pointer
  · rename_i filled
    have packaged : side.packageOf c a ≠ "" := fun empty => filled (by rw [empty]; rfl)
    rw [String.append_assoc, isPointerRef_front packaged, unstarred] at pointer
    cases pointer

theorem isObject_iff_kind : c.isObject a = true ↔ kind? c a = some .object := by
  unfold Catalog.isObject kind?
  cases (c.resolve a).type with
  | none => simp
  | some type => cases type <;> simp [DataType.kind]

end Pointers

def nilGuard : String := "if v == nil \x7b\n\treturn nil\n\x7d\n"

/-- What a helper is for the pair that it converts. Its opening builds the result that it declares,
and it answers nil with nil just if nil can come, where it may return it. -/
structure HelperBuilds (c : Catalog) (r : ConversionRequest) (h : Helper) (x y : Attribute) :
    Prop where
  name : h.name = (frameOf c r).helperName x y
  paramType : h.paramType = r.sourceSide.typeRef c x
  resultType : h.resultType = r.targetSide.typeRef c y
  opening : ∃ kind body, kind? c x = some kind ∧ kind? c y = some kind ∧
    Opening "v" "res" h.paramType h.resultType kind body ∧
    h.body = if Go.isPointerRef h.paramType then nilGuard ++ body else body
  guarded : (∃ rest, h.body = nilGuard ++ rest) ↔ Go.isPointerRef h.paramType = true
  nilable : Go.isPointerRef h.paramType = true → Go.isPointerRef h.resultType = true

section Helpers

variable {c : Catalog} {r : ConversionRequest} {x y : Attribute} {code : HelperCode}

theorem Opening.ne_guard {sourceRef reference body : String} {kind : Kind}
    (h : Opening "v" "res" sourceRef reference kind body) (rest : String) :
    body ≠ nilGuard ++ rest := by
  intro same
  have first : body.toList.head? = some 'i' := by
    rw [same, String.toList_append]
    rfl
  cases h <;> simp at first

theorem blockText_guarded (f : Frame) (x : Attribute) (body : List Stmt) :
    blockText (guarded f x body) =
      if Go.isPointerRef (f.sourceRef x) then nilGuard ++ blockText body else blockText body := by
  unfold guarded
  split
  · rfl
  · rfl

theorem helperBuilds_of_converts (place : Place c r.source r.target x y)
    (converts : code.Converts (frameOf c r) x y)
    (unstarred : Go.isPointerRef (r.sourceSide.packageOf c x) = false) :
    HelperBuilds c r code.render x y := by
  have paramType : code.render.paramType = r.sourceSide.typeRef c x := converts.paramType
  have resultType : code.render.resultType = r.targetSide.typeRef c y := converts.resultType
  obtain ⟨depth, body, s, s', run, same⟩ := converts.body
  have outer : (Contract.helperTask x y).position ≠ .nested := nofun
  have inner : (Contract.helperTask x y).position ≠ .root := nofun
  obtain ⟨kind, left, right, builds⟩ := builds_convertWithin rfl outer run
  have opening : Opening "v" "res" code.render.paramType code.render.resultType kind
      (blockText body) := by
    rw [paramType, resultType]
    exact builds.opening fun root => absurd root inner
  have text : code.render.body =
      if Go.isPointerRef code.render.paramType then nilGuard ++ blockText body
      else blockText body := by
    rw [paramType]
    exact (congrArg blockText same).trans (blockText_guarded (frameOf c r) x body)
  refine ⟨converts.name, paramType, resultType, ⟨kind, _, left, right, opening, text⟩, ?_,
    fun pointer => ?_⟩
  · rw [text]
    split
    · rename_i pointer
      exact iff_of_true ⟨_, rfl⟩ pointer
    · rename_i value
      exact iff_of_false (fun ⟨rest, front⟩ => opening.ne_guard rest front) value
  · obtain ⟨t, typeX⟩ := Option.isSome_iff_exists.mp place.needed.source
    obtain ⟨u, typeY⟩ := Option.isSome_iff_exists.mp place.needed.target
    -- a pointer is an object here, and both sides resolve to one kind
    rw [paramType, isPointerRef_iff_isObject unstarred typeX, isObject_iff_kind] at pointer
    have object : kind? c y = some .object := right.trans (left.symm.trans pointer)
    rw [resultType]
    exact Go.isPointerRef_object typeY (isObject_iff_kind.mpr object)

end Helpers

/-- No package that the types below an attribute are taken from is spelled with a star in front, as
none is that is an identifier. -/
def Unstarred (c : Catalog) (side : Go.Side) (a : Attribute) : Prop :=
  ∀ u, c.Reaches a u → Go.isPointerRef (side.packageOf c u) = false

/-- The body builds the target of the request at its type, and each helper the result that it
declares. -/
structure OutputBuilds (c : Catalog) (r : ConversionRequest) (output : ConversionOutput) :
    Prop where
  opening : ∃ kind, kind? c r.source = some kind ∧ kind? c r.target = some kind ∧
    Opening r.sourceVar r.targetVar (r.sourceSide.typeRef c r.source)
      (r.targetSide.typeRef c r.target) kind output.body
  helpers : Unstarred c r.sourceSide r.source → ∀ h ∈ output.helpers,
    ∃ x y, Place c r.source r.target x y ∧ HelperBuilds c r h x y

section Outputs

variable {c : Catalog} {r : ConversionRequest} {code : Code}

theorem builds_of_build (built : build c r = .ok code) :
    ∃ kind, kind? c r.source = some kind ∧ kind? c r.target = some kind ∧
      Builds (frameOf c r) (taskOf r) kind code.body := by
  obtain ⟨emitted, run, -⟩ := build_eq_ok.mp built
  have outer : (taskOf r).position ≠ .nested := nofun
  exact builds_convertWithin rfl outer run

theorem outputBuilds_of_build (byReference : r.byReference = true) (built : build c r = .ok code) :
    OutputBuilds c r code.render := by
  constructor
  · obtain ⟨kind, left, right, builds⟩ := builds_of_build built
    exact ⟨kind, left, right, builds.opening fun _ => byReference⟩
  · intro unstarred h mem
    obtain ⟨helper, made, rfl⟩ := List.mem_map.mp mem
    obtain ⟨x, y, place, converts⟩ := (complete_of_build built).made helper made
    have here := unstarred x place.reaches.1
    exact ⟨x, y, place, helperBuilds_of_converts place converts here⟩

theorem not_blank_of_build (built : build c r = .ok code) :
    Text.isBlank code.render.body = false := by
  obtain ⟨kind, -, -, builds⟩ := builds_of_build built
  exact builds.not_blank

end Outputs

end Toolbridge.Conversion
