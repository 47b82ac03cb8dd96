import Toolbridge.Compatibility
import Toolbridge.Proofs.Attribute.Members
import Toolbridge.Proofs.Attribute.Vicinity
import Toolbridge.Proofs.Text.NameSet

set_option autoImplicit false

namespace Toolbridge

namespace Compatibility

inductive Step where
  | field (name : String)
  | element
  | key
  | value
  | member (name : String)

def Step.text : Step → String
  | .field name => "." ++ name
  | .element => "[]"
  | .key => "[key]"
  | .value => "[value]"
  | .member name => "<" ++ name ++ ">"

end Compatibility

def Incompatibility.pathText (steps : List Compatibility.Step) : String :=
  String.join (steps.map (·.text))

namespace Compatibility

open Incompatibility (pathText)

/-- One step down on both sides: to a field of the left and the first of its name on the right, to
members at one position, or to the parts of arrays and maps. -/
inductive Descends (a b : Attribute) : Step → Attribute → Attribute → Prop where
  | field {l r : List Member} {f g : Member} (left : a.type = some (.object l))
      (right : b.type = some (.object r)) (mem : f ∈ l) (found : Members.find? r f.name = some g) :
      Descends a b (.field f.name) f.attr g.attr
  | element {x y : Attribute} (left : a.type = some (.array x)) (right : b.type = some (.array y)) :
      Descends a b .element x y
  | key {x y l r : Attribute} (left : a.type = some (.map x l)) (right : b.type = some (.map y r)) :
      Descends a b .key x y
  | value {lk rk x y : Attribute} (left : a.type = some (.map lk x))
      (right : b.type = some (.map rk y)) : Descends a b .value x y
  | member {l r : List Member} {f g : Member} {i : Nat} (left : a.type = some (.union l))
      (right : b.type = some (.union r)) (atLeft : l[i]? = some f) (atRight : r[i]? = some g)
      (name : f.name = g.name) : Descends a b (.member f.name) f.attr g.attr

/-- The steps lead from two attributes to two others, where either side may be unfolded at any
time. -/
inductive Leads (c : Catalog) :
    List Step → Attribute → Attribute → Attribute → Attribute → Prop where
  | here {a b : Attribute} : Leads c [] a b a b
  | left {steps : List Step} {a a' b x y : Attribute} (step : c.AliasStep a a')
      (rest : Leads c steps a' b x y) : Leads c steps a b x y
  | right {steps : List Step} {a b b' x y : Attribute} (step : c.AliasStep b b')
      (rest : Leads c steps a b' x y) : Leads c steps a b x y
  | down {s : Step} {steps : List Step} {a b a' b' x y : Attribute} (step : Descends a b s a' b')
      (rest : Leads c steps a' b' x y) : Leads c (s :: steps) a b x y

def Full (c : Catalog) (a : Attribute) : Prop :=
  ∀ x, Relation.ReflTransGen c.AliasStep a x → x.isEmpty = false

inductive Discord (c : Catalog) (a b : Attribute) : Reason → Prop where
  | leftEmpty (left : a.isEmpty = true) (right : Full c b) : Discord c a b .oneEmpty
  | rightEmpty (left : Full c a) (right : b.isEmpty = true) : Discord c a b .oneEmpty
  | families {p q : Primitive} (left : a.type = some (.primitive p))
      (right : b.type = some (.primitive q)) (apart : p.family ≠ q.family) :
      Discord c a b (.families p.family q.family)
  | fieldSets {l r : List Member} {onlyLeft onlyRight : List String}
      (left : a.type = some (.object l)) (right : b.type = some (.object r))
      (leftNames : ∀ n, n ∈ onlyLeft ↔ n ∈ l.map (·.name) ∧ n ∉ r.map (·.name))
      (rightNames : ∀ n, n ∈ onlyRight ↔ n ∈ r.map (·.name) ∧ n ∉ l.map (·.name))
      (apart : ¬ ∀ n, n ∈ l.map (·.name) ↔ n ∈ r.map (·.name)) :
      Discord c a b (.fieldSets onlyLeft onlyRight)
  | requiredSets {l r : List Member} {leftRequired rightRequired : List String}
      (left : a.type = some (.object l)) (right : b.type = some (.object r))
      (leftNames : ∀ n, n ∈ leftRequired ↔ n ∈ a.required)
      (rightNames : ∀ n, n ∈ rightRequired ↔ n ∈ b.required)
      (apart : ¬ ∀ n, n ∈ a.required ↔ n ∈ b.required) :
      Discord c a b (.requiredSets leftRequired rightRequired)
  | memberCounts {l r : List Member} (left : a.type = some (.union l))
      (right : b.type = some (.union r)) (apart : l.length ≠ r.length) :
      Discord c a b (.memberCounts l.length r.length)
  | memberNames {l r : List Member} {f g : Member} {i : Nat} (left : a.type = some (.union l))
      (right : b.type = some (.union r)) (atLeft : l[i]? = some f) (atRight : r[i]? = some g)
      (apart : f.name ≠ g.name) : Discord c a b (.memberNames f.name g.name)
  | kinds {ta tb : DataType} (left : a.type = some ta) (right : b.type = some tb)
      (inlineLeft : c.userType? a = none) (inlineRight : c.userType? b = none)
      (apart : ta.kind ≠ tb.kind) : Discord c a b (.kinds ta.kind tb.kind)

def PartsAt (c : Catalog) (a b : Attribute) (leftPath rightPath : String) (e : Incompatibility) :
    Prop :=
  ∃ steps x y reason, e.left = leftPath ++ pathText steps ∧ e.right = rightPath ++ pathText steps ∧
    e.reason = reason.text ∧ Leads c steps a b x y ∧ Discord c x y reason

variable {c : Catalog} {a b : Attribute} {leftPath rightPath : String} {e : Incompatibility}
  {assumed : Assumed} {left right : List Member} {compare : Comparison}

theorem next_eq_failed {o : Outcome} {next : Assumed → Outcome}
    (failed : (match o with
      | .ok assumed => next assumed
      | stop => stop) = .error (.failed e)) :
    o = .error (.failed e) ∨ ∃ assumed, next assumed = .error (.failed e) := by
  cases o with
  | ok assumed => exact .inr ⟨assumed, failed⟩
  | error stop => exact .inl failed

theorem compareFields_eq_failed
    (failed : compareFields compare right leftPath rightPath assumed left =
      .error (.failed e)) :
    ∃ f ∈ left, ∃ g, Members.find? right f.name = some g ∧ ∃ assumed,
      compare assumed f.attr g.attr (leftPath ++ (Step.field f.name).text)
        (rightPath ++ (Step.field f.name).text) = .error (.failed e) := by
  induction left generalizing assumed with
  | nil => cases failed
  | cons f rest ih =>
    unfold compareFields at failed
    cases found : Members.find? right f.name with
    | none =>
      rw [found] at failed
      obtain ⟨h, mem, part⟩ := ih failed
      exact ⟨h, List.mem_cons_of_mem _ mem, part⟩
    | some g =>
      rw [found] at failed
      rcases next_eq_failed failed with here | ⟨known, later⟩
      · rw [String.append_assoc, String.append_assoc] at here
        exact ⟨f, List.mem_cons_self, g, found, assumed, here⟩
      · obtain ⟨h, mem, part⟩ := ih later
        exact ⟨h, List.mem_cons_of_mem _ mem, part⟩

theorem compareMembers_eq_failed
    (failed : compareMembers compare leftPath rightPath assumed left right =
      .error (.failed e)) :
    ∃ (i : Nat) (f g : Member), left[i]? = some f ∧ right[i]? = some g ∧
      ((f.name ≠ g.name ∧
          diverge (.memberNames f.name g.name) leftPath rightPath = .error (.failed e)) ∨
        f.name = g.name ∧ ∃ assumed,
          compare assumed f.attr g.attr (leftPath ++ (Step.member f.name).text)
            (rightPath ++ (Step.member f.name).text) = .error (.failed e)) := by
  induction left generalizing assumed right with
  | nil => cases failed
  | cons f left ih =>
    cases right with
    | nil => cases failed
    | cons g right =>
      unfold compareMembers at failed
      split at failed
      · rename_i same
        rcases next_eq_failed failed with here | ⟨known, later⟩
        · -- both names are told, but they are one
          rw [← same] at here
          simp only [String.append_assoc] at here
          refine ⟨0, f, g, rfl, rfl, .inr ⟨same, assumed, ?_⟩⟩
          simpa only [Step.text, String.append_assoc] using here
        · obtain ⟨i, h, k, atLeft, atRight, part⟩ := ih later
          exact ⟨i + 1, h, k, atLeft, atRight, part⟩
      · rename_i apart
        exact ⟨0, f, g, rfl, rfl, .inl ⟨apart, failed⟩⟩

theorem mem_onlyIn {names others : List String} {n : String} :
    n ∈ onlyIn (Text.nameSet names) (Text.nameSet others) ↔ n ∈ names ∧ n ∉ others := by
  unfold onlyIn
  simp [Text.mem_nameSet]

theorem pathText_cons (s : Step) (steps : List Step) :
    pathText (s :: steps) = s.text ++ pathText steps := by
  rw [pathText, List.map_cons, String.join_cons, pathText]

theorem PartsAt.of_diverge {reason : Reason} (discord : Discord c a b reason)
    (failed : diverge reason leftPath rightPath = .error (.failed e)) :
    PartsAt c a b leftPath rightPath e := by
  cases failed
  have nowhere : ∀ path, path = path ++ pathText [] := fun path => (String.append_empty).symm
  exact ⟨[], a, b, reason, nowhere leftPath, nowhere rightPath, rfl, .here, discord⟩

theorem PartsAt.within {s : Step} {x y : Attribute} (step : Descends a b s x y)
    (parts : PartsAt c x y (leftPath ++ s.text) (rightPath ++ s.text) e) :
    PartsAt c a b leftPath rightPath e := by
  obtain ⟨steps, u, v, reason, left, right, told, leads, discord⟩ := parts
  rw [String.append_assoc, ← pathText_cons] at left right
  exact ⟨s :: steps, u, v, reason, left, right, told, .down step leads, discord⟩

theorem PartsAt.unfoldLeft {t : UserType} (type : c.userType? a = some t)
    (parts : PartsAt c t.body b leftPath rightPath e) : PartsAt c a b leftPath rightPath e := by
  obtain ⟨steps, u, v, reason, left, right, told, leads, discord⟩ := parts
  exact ⟨steps, u, v, reason, left, right, told, .left ⟨t, type, rfl⟩ leads, discord⟩

theorem PartsAt.unfoldRight {t : UserType} (type : c.userType? b = some t)
    (parts : PartsAt c a t.body leftPath rightPath e) : PartsAt c a b leftPath rightPath e := by
  obtain ⟨steps, u, v, reason, left, right, told, leads, discord⟩ := parts
  exact ⟨steps, u, v, reason, left, right, told, .right ⟨t, type, rfl⟩ leads, discord⟩

theorem Descends.part {s : Step} {x y : Attribute} (step : Descends a b s x y) :
    c.Part a x ∧ c.Part b y := by
  cases step with
  | field left right mem found => exact ⟨.field left mem, .field right (Members.find?_mem found).1⟩
  | element left right => exact ⟨.element left, .element right⟩
  | key left right => exact ⟨.key left, .key right⟩
  | value left right => exact ⟨.value left, .value right⟩
  | member left right atLeft atRight name =>
    exact ⟨.member left (List.mem_of_getElem? atLeft), .member right (List.mem_of_getElem? atRight)⟩

theorem full_of_noEmptyBody (filled : c.NoEmptyBody a) (nonempty : a.isEmpty = false) :
    Full c a := by
  intro x unfolds
  rcases Relation.ReflTransGen.cases_tail unfolds with rfl | ⟨y, before, t, type, rfl⟩
  · exact nonempty
  · exact filled y t (Catalog.reaches_of_aliases before) type

def PartsBelow (c : Catalog) (compare : Comparison) : Prop :=
  ∀ assumed x y leftPath rightPath e, c.NoEmptyBody x → c.NoEmptyBody y →
    compare assumed x y leftPath rightPath = .error (.failed e) →
      PartsAt c x y leftPath rightPath e

section Levels

variable (below : PartsBelow c compare) (filledA : c.NoEmptyBody a) (filledB : c.NoEmptyBody b)
include below filledA filledB

theorem partsAt_of_part {s : Step} {x y : Attribute} (step : Descends a b s x y)
    (failed : compare assumed x y (leftPath ++ s.text) (rightPath ++ s.text) =
      .error (.failed e)) : PartsAt c a b leftPath rightPath e := by
  obtain ⟨left, right⟩ := step.part (c := c)
  exact .within step
    (below assumed x y _ _ e (filledA.below left.reaches) (filledB.below right.reaches) failed)

theorem partsAt_of_objects (leftType : a.type = some (.object left))
    (rightType : b.type = some (.object right))
    (failed : compareObjects compare assumed left right a.required b.required leftPath
      rightPath = .error (.failed e)) : PartsAt c a b leftPath rightPath e := by
  unfold compareObjects at failed
  dsimp only at failed
  split at failed
  · split at failed
    · obtain ⟨f, mem, g, found, known, part⟩ := compareFields_eq_failed failed
      exact partsAt_of_part below filledA filledB (.field leftType rightType mem found) part
    · rename_i apart
      refine .of_diverge (.requiredSets leftType rightType (fun _ => Text.mem_nameSet)
        (fun _ => Text.mem_nameSet) fun same => apart (Text.nameSet_eq_iff.mpr same)) failed
  · rename_i apart
    exact .of_diverge (.fieldSets leftType rightType (fun _ => mem_onlyIn) (fun _ => mem_onlyIn)
      fun same => apart (Text.nameSet_eq_iff.mpr same)) failed

theorem partsAt_of_unions (leftType : a.type = some (.union left))
    (rightType : b.type = some (.union right))
    (failed : compareMembers compare leftPath rightPath assumed left right =
      .error (.failed e)) : PartsAt c a b leftPath rightPath e := by
  obtain ⟨i, f, g, atLeft, atRight, ⟨apart, told⟩ | ⟨same, known, part⟩⟩ :=
    compareMembers_eq_failed failed
  · exact .of_diverge (.memberNames leftType rightType atLeft atRight apart) told
  · have step := Descends.member leftType rightType atLeft atRight same
    exact partsAt_of_part below filledA filledB step part

theorem partsAt_of_shapes {ta tb : DataType} (leftType : a.type = some ta)
    (rightType : b.type = some tb) (inlineA : c.userType? a = none) (inlineB : c.userType? b = none)
    (failed : compareNodes c compare assumed a b leftPath rightPath = .error (.failed e)) :
    PartsAt c a b leftPath rightPath e := by
  have kinds : ta.kind ≠ tb.kind →
      diverge (.kinds ta.kind tb.kind) leftPath rightPath = .error (.failed e) →
        PartsAt c a b leftPath rightPath e := fun apart =>
    .of_diverge (.kinds leftType rightType inlineA inlineB apart)
  simp only [compareNodes, leftType, rightType, inlineA, inlineB] at failed
  cases ta with
  | primitive p =>
    cases tb with
    | primitive q =>
      dsimp only at failed
      split at failed
      · cases failed
      · rename_i apart
        exact .of_diverge (.families leftType rightType apart) failed
    | _ => exact kinds nofun failed
  | object left =>
    cases tb with
    | object right => exact partsAt_of_objects below filledA filledB leftType rightType failed
    | _ => exact kinds nofun failed
  | array left =>
    cases tb with
    | array right =>
      exact partsAt_of_part below filledA filledB (.element leftType rightType) failed
    | _ => exact kinds nofun failed
  | map leftKey left =>
    cases tb with
    | map rightKey right =>
      rcases next_eq_failed failed with part | ⟨known, later⟩
      · exact partsAt_of_part below filledA filledB (.key leftType rightType) part
      · exact partsAt_of_part below filledA filledB (.value leftType rightType) later
    | _ => exact kinds nofun failed
  | union left =>
    cases tb with
    | union right =>
      dsimp only at failed
      split at failed
      · exact partsAt_of_unions below filledA filledB leftType rightType failed
      · rename_i apart
        exact .of_diverge (.memberCounts leftType rightType apart) failed
    | _ => exact kinds nofun failed
  | user id => rw [Catalog.userType?_user leftType] at inlineA; cases inlineA
  | named name body => rw [Catalog.userType?_named leftType] at inlineA; cases inlineA

theorem partsAt_of_nodes
    (failed : compareNodes c compare assumed a b leftPath rightPath = .error (.failed e)) :
    PartsAt c a b leftPath rightPath e := by
  cases leftType : a.type with
  | none =>
    cases rightType : b.type with
    | none =>
      simp only [compareNodes, leftType, rightType] at failed
      cases failed
    | some tb =>
      simp only [compareNodes, leftType, rightType] at failed
      have nonempty : b.isEmpty = false := by rw [Attribute.isEmpty, rightType]; rfl
      have full : Full c b := full_of_noEmptyBody filledB nonempty
      exact .of_diverge (.leftEmpty (by rw [Attribute.isEmpty, leftType]; rfl) full) failed
  | some ta =>
  cases rightType : b.type with
  | none =>
    simp only [compareNodes, leftType, rightType] at failed
    have nonempty : a.isEmpty = false := by rw [Attribute.isEmpty, leftType]; rfl
    have full : Full c a := full_of_noEmptyBody filledA nonempty
    exact .of_diverge (.rightEmpty full (by rw [Attribute.isEmpty, rightType]; rfl)) failed
  | some tb =>
  cases typeA : c.userType? a with
  | some t =>
    have filledT := filledA.below (Catalog.Part.body typeA).reaches
    cases typeB : c.userType? b with
    | some u =>
      have filledU := filledB.below (Catalog.Part.body typeB).reaches
      simp only [compareNodes, leftType, rightType, typeA, typeB] at failed
      split at failed
      · cases failed
      · exact .unfoldLeft typeA (.unfoldRight typeB (below _ _ _ _ _ _ filledT filledU failed))
    | none =>
      simp only [compareNodes, leftType, rightType, typeA, typeB] at failed
      exact .unfoldLeft typeA (below _ _ _ _ _ _ filledT filledB failed)
  | none =>
    cases typeB : c.userType? b with
    | some u =>
      have filledU := filledB.below (Catalog.Part.body typeB).reaches
      simp only [compareNodes, leftType, rightType, typeA, typeB] at failed
      exact .unfoldRight typeB (below _ _ _ _ _ _ filledA filledU failed)
    | none => exact partsAt_of_shapes below filledA filledB leftType rightType typeA typeB failed

end Levels

theorem partsBelow_compareWithin (c : Catalog) (depth : Nat) :
    PartsBelow c (compareWithin c depth) := by
  induction depth with
  | zero =>
    intro assumed x y leftPath rightPath e filledX filledY failed
    cases failed
  | succ depth ih =>
    intro assumed x y leftPath rightPath e filledX filledY failed
    exact partsAt_of_nodes ih filledX filledY failed

/-- An incompatibility that is reported is one: the steps in its texts lead to two attributes that
disagree at their top for the reason given. -/
theorem incompatibility_found {c : Catalog} {a b : Attribute} {leftLabel rightLabel : String}
    {e : Incompatibility} (filledA : c.NoEmptyBody a) (filledB : c.NoEmptyBody b)
    (failed : c.checkCompatible a b leftLabel rightLabel = .error (.failed e)) :
    ∃ steps x y reason, e.left = leftLabel ++ Incompatibility.pathText steps ∧
      e.right = rightLabel ++ Incompatibility.pathText steps ∧ e.reason = reason.text ∧
        Leads c steps a b x y ∧ Discord c x y reason := by
  unfold Catalog.checkCompatible at failed
  cases outcome : compareWithin c (c.depthBound a b) [] a b leftLabel rightLabel with
  | ok assumed =>
    rw [outcome] at failed
    cases failed
  | error stop =>
    rw [outcome] at failed
    obtain rfl := Except.error.inj failed
    exact partsBelow_compareWithin c _ [] a b leftLabel rightLabel e filledA filledB outcome

/-! A document with its labels, which are texts on one side and truth values on the other. -/
namespace Labelled

def body (p : Primitive) : Attribute :=
  .ofType (.object [⟨"title", .ofType (.primitive .string)⟩,
    ⟨"labels", .ofType (.array (.ofType (.map (.ofType (.primitive .string))
      (.ofType (.primitive p)))))⟩])

def catalog : Catalog := ⟨[{ name := "Doc", body := body .string }]⟩

def holding (doc : Attribute) : Attribute := .ofType (.object [⟨"doc", doc⟩])

def source : Attribute := holding (.ofType (.user 0))

def target : Attribute := holding (body .boolean)

theorem labels_part :
    ∃ e steps x y reason, catalog.checkCompatible source target "a" "b" = .error (.failed e) ∧
      e.message = "a.doc.labels[][value] is not compatible with b.doc.labels[][value]: " ++
        "string vs bool" ∧
      e.left = "a" ++ Incompatibility.pathText steps ∧
        e.right = "b" ++ Incompatibility.pathText steps ∧ e.reason = reason.text ∧
          Leads catalog steps source target x y ∧ Discord catalog x y reason := by
  have failed : catalog.checkCompatible source target "a" "b" =
      .error (.failed ⟨"a.doc.labels[][value]", "b.doc.labels[][value]", "string vs bool"⟩) := rfl
  have filled : catalog.NoEmptyBody source := Catalog.noEmptyBody_of_vicinity rfl
  have filled' : catalog.NoEmptyBody target := Catalog.noEmptyBody_of_vicinity rfl
  obtain ⟨steps, x, y, reason, found⟩ := incompatibility_found filled filled' failed
  exact ⟨_, steps, x, y, reason, failed, by decide +kernel, found⟩

end Labelled

end Compatibility
end Toolbridge
