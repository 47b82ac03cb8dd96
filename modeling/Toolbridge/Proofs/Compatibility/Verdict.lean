import Toolbridge.Compatibility

set_option autoImplicit false

/-!
# The course of a comparison

A comparison with the places and reasons left out. Looking at two attributes gives the pairs that
have to be compared next, in order, and whether the two disagree once these pairs have been found to
agree. `Verdict.along` goes through such pairs, and `judge` is the comparison in these terms: it
agrees, finds a difference or does not end as the comparison itself does (`judge_eq_verdict`).
-/
namespace Toolbridge

namespace Compatibility

inductive Verdict where
  | agreed (assumed : Assumed)
  | parted
  | unfinished

def Outcome.verdict : Outcome → Verdict
  | .ok assumed => .agreed assumed
  | .error (.failed _) => .parted
  | .error .unfinished => .unfinished

abbrev Pair := Attribute × Attribute

structure Itinerary where
  assumed : Assumed
  pairs : List Pair := []
  /-- Nothing speaks against the two but their parts. -/
  agrees : Bool := true

def fieldPairs (right : List Member) : List Member → List Pair
  | [] => []
  | f :: rest =>
    match Members.find? right f.name with
    | none => fieldPairs right rest
    | some other => (f.attr, other.attr) :: fieldPairs right rest

def memberPairs : List Member → List Member → List Pair
  | l :: left, r :: right => if l.name = r.name then (l.attr, r.attr) :: memberPairs left right else []
  | _, _ => []

def namesAgree : List Member → List Member → Bool
  | l :: left, r :: right => l.name = r.name && namesAgree left right
  | _, _ => true

def objectItinerary (assumed : Assumed) (left right : List Member)
    (leftRequired rightRequired : List String) : Itinerary :=
  if Text.nameSet (left.map (·.name)) = Text.nameSet (right.map (·.name))
      ∧ Text.nameSet leftRequired = Text.nameSet rightRequired then
    { assumed, pairs := fieldPairs right left }
  else { assumed, agrees := false }

def shapeItinerary (assumed : Assumed) (leftRequired rightRequired : List String) :
    DataType → DataType → Itinerary
  | .primitive p, .primitive q => { assumed, agrees := p.family = q.family }
  | .object left, .object right => objectItinerary assumed left right leftRequired rightRequired
  | .array left, .array right => { assumed, pairs := [(left, right)] }
  | .map leftKey left, .map rightKey right =>
    { assumed, pairs := [(leftKey, rightKey), (left, right)] }
  | .union left, .union right =>
    if left.length = right.length then
      { assumed, pairs := memberPairs left right, agrees := namesAgree left right }
    else { assumed, agrees := false }
  | _, _ => { assumed, agrees := false }

def itinerary (c : Catalog) (assumed : Assumed) (a b : Attribute) : Itinerary :=
  match a.type, b.type with
  | none, none => { assumed }
  | none, some _ => { assumed, agrees := false }
  | some _, none => { assumed, agrees := false }
  | some ta, some tb =>
    match c.userType? a, c.userType? b with
    | some ua, some ub =>
      if assumed.contains (ua.name, ub.name) then { assumed }
      else { assumed := (ua.name, ub.name) :: assumed, pairs := [(ua.body, ub.body)] }
    | some ua, none => { assumed, pairs := [(ua.body, b)] }
    | none, some ub => { assumed, pairs := [(a, ub.body)] }
    | none, none => shapeItinerary assumed a.required b.required ta tb

def Verdict.along (judge : Assumed → Attribute → Attribute → Verdict) (agrees : Bool) :
    Assumed → List Pair → Verdict
  | assumed, [] => if agrees then .agreed assumed else .parted
  | assumed, p :: rest =>
    match judge assumed p.1 p.2 with
    | .agreed assumed => along judge agrees assumed rest
    | stop => stop

def Itinerary.verdict (i : Itinerary) (judge : Assumed → Attribute → Attribute → Verdict) :
    Verdict :=
  Verdict.along judge i.agrees i.assumed i.pairs

def judge (c : Catalog) : Nat → Assumed → Attribute → Attribute → Verdict
  | 0, _, _, _ => .unfinished
  | depth + 1, assumed, a, b => (itinerary c assumed a b).verdict (judge c depth)

@[simp] theorem verdict_ok (assumed : Assumed) :
    Outcome.verdict (.ok assumed) = .agreed assumed := rfl

@[simp] theorem verdict_diverge (reason : Reason) (leftPath rightPath : String) :
    (diverge reason leftPath rightPath).verdict = .parted := rfl

@[simp] theorem along_nil (judge : Assumed → Attribute → Attribute → Verdict) (agrees : Bool)
    (assumed : Assumed) :
    Verdict.along judge agrees assumed [] = if agrees then .agreed assumed else .parted := rfl

theorem along_cons (judge : Assumed → Attribute → Attribute → Verdict) (agrees : Bool)
    (assumed : Assumed) (p : Pair) (rest : List Pair) :
    Verdict.along judge agrees assumed (p :: rest) =
      match judge assumed p.1 p.2 with
      | .agreed assumed => Verdict.along judge agrees assumed rest
      | stop => stop := rfl

theorem along_single (judge : Assumed → Attribute → Attribute → Verdict) (assumed : Assumed)
    (p : Pair) : Verdict.along judge true assumed [p] = judge assumed p.1 p.2 := by
  rw [along_cons]
  cases judge assumed p.1 p.2 <;> rfl

/-- The verdict of the comparison does not depend on where the attributes stand. -/
def Judges (compare : Comparison) (judge : Assumed → Attribute → Attribute → Verdict) : Prop :=
  ∀ assumed a b leftPath rightPath,
    (compare assumed a b leftPath rightPath).verdict = judge assumed a b

theorem verdict_next (o : Outcome) (next : Assumed → Outcome) :
    Outcome.verdict (match o with
      | .ok assumed => next assumed
      | stop => stop) =
      match o.verdict with
      | .agreed assumed => (next assumed).verdict
      | stop => stop := by
  cases o with
  | ok assumed => rfl
  | error stop => cases stop <;> rfl

section Erasure

variable {compare : Comparison} {judge : Assumed → Attribute → Attribute → Verdict}
  {leftPath rightPath : String} (judges : Judges compare judge)
include judges

theorem verdict_compareFields (right : List Member) (assumed : Assumed) (left : List Member) :
    (compareFields compare right leftPath rightPath assumed left).verdict =
      Verdict.along judge true assumed (fieldPairs right left) := by
  induction left generalizing assumed with
  | nil => rfl
  | cons f rest ih =>
    unfold compareFields fieldPairs
    cases Members.find? right f.name with
    | none => exact ih assumed
    | some other =>
      refine (verdict_next _ _).trans ?_
      rw [judges, along_cons]
      cases judge assumed f.attr other.attr with
      | agreed assumed => exact ih assumed
      | _ => rfl

theorem verdict_compareMembers (assumed : Assumed) (left right : List Member) :
    (compareMembers compare leftPath rightPath assumed left right).verdict =
      Verdict.along judge (namesAgree left right) assumed (memberPairs left right) := by
  induction left generalizing assumed right with
  | nil => rfl
  | cons l left ih =>
    cases right with
    | nil => rfl
    | cons r right =>
      unfold compareMembers namesAgree memberPairs
      by_cases same : l.name = r.name
      · simp only [same, if_true, decide_true, Bool.true_and]
        refine (verdict_next _ _).trans ?_
        rw [judges, along_cons]
        cases judge assumed l.attr r.attr with
        | agreed assumed => exact ih assumed right
        | _ => rfl
      · simp [same]

theorem verdict_compareObjects (assumed : Assumed) (left right : List Member)
    (leftRequired rightRequired : List String) :
    (compareObjects compare assumed left right leftRequired rightRequired leftPath
        rightPath).verdict =
      (objectItinerary assumed left right leftRequired rightRequired).verdict judge := by
  unfold compareObjects objectItinerary
  by_cases names : Text.nameSet (left.map (·.name)) = Text.nameSet (right.map (·.name))
  · by_cases required : Text.nameSet leftRequired = Text.nameSet rightRequired
    · simp only [names, required, and_self, if_true]
      exact verdict_compareFields judges right assumed left
    · simp [names, required, Itinerary.verdict]
  · simp [names, Itinerary.verdict]

theorem verdict_compareShapes {c : Catalog} {a b : Attribute} {ta tb : DataType}
    (assumed : Assumed) (shapeA : a.type = some ta) (shapeB : b.type = some tb)
    (bareA : c.userType? a = none) (bareB : c.userType? b = none) :
    (compareNodes c compare assumed a b leftPath rightPath).verdict =
      (shapeItinerary assumed a.required b.required ta tb).verdict judge := by
  simp only [compareNodes, shapeA, shapeB, bareA, bareB]
  cases ta with
  | primitive p =>
    cases tb with
    | primitive q =>
      by_cases same : p.family = q.family <;> simp [shapeItinerary, Itinerary.verdict, same]
    | _ => rfl
  | object left =>
    cases tb with
    | object right => exact verdict_compareObjects judges assumed left right a.required b.required
    | _ => rfl
  | array left =>
    cases tb with
    | array right => exact (judges ..).trans (along_single judge assumed (left, right)).symm
    | _ => rfl
  | map leftKey left =>
    cases tb with
    | map rightKey right =>
      refine (verdict_next _ _).trans ?_
      unfold shapeItinerary Itinerary.verdict
      rw [judges, along_cons]
      cases judge assumed leftKey rightKey with
      | agreed assumed => exact (judges ..).trans (along_single judge assumed (left, right)).symm
      | _ => rfl
    | _ => rfl
  | union left =>
    cases tb with
    | union right =>
      by_cases counts : left.length = right.length
      · simp only [shapeItinerary, counts, if_true]
        exact verdict_compareMembers judges assumed left right
      · simp [shapeItinerary, Itinerary.verdict, counts]
    | _ => rfl
  | user _ => cases tb <;> rfl
  | named _ _ => cases tb <;> rfl

theorem verdict_compareNodes (c : Catalog) (assumed : Assumed) (a b : Attribute) :
    (compareNodes c compare assumed a b leftPath rightPath).verdict =
      (itinerary c assumed a b).verdict judge := by
  have single : ∀ assumed x y, (compare assumed x y leftPath rightPath).verdict =
      Verdict.along judge true assumed [(x, y)] := fun assumed x y =>
    (judges ..).trans (along_single judge assumed (x, y)).symm
  cases shapeA : a.type with
  | none =>
    cases shapeB : b.type <;> simp only [compareNodes, itinerary, shapeA, shapeB] <;> rfl
  | some ta =>
    cases shapeB : b.type with
    | none =>
      simp only [compareNodes, itinerary, shapeA, shapeB]
      rfl
    | some tb =>
      cases typeA : c.userType? a with
      | some ua =>
        cases typeB : c.userType? b with
        | some ub =>
          simp only [compareNodes, itinerary, shapeA, shapeB, typeA, typeB]
          by_cases known : assumed.contains (ua.name, ub.name) = true
          · simp only [known, if_true]
            rfl
          · simp only [if_neg known]
            exact single _ ua.body ub.body
        | none =>
          simp only [compareNodes, itinerary, shapeA, shapeB, typeA, typeB]
          exact single assumed ua.body b
      | none =>
        cases typeB : c.userType? b with
        | some ub =>
          simp only [compareNodes, itinerary, shapeA, shapeB, typeA, typeB]
          exact single assumed a ub.body
        | none =>
          rw [verdict_compareShapes judges assumed shapeA shapeB typeA typeB]
          simp only [itinerary, shapeA, shapeB, typeA, typeB]

end Erasure

theorem judges_compareWithin (c : Catalog) (depth : Nat) :
    Judges (compareWithin c depth) (judge c depth) := by
  induction depth with
  | zero => exact fun _ _ _ _ _ => rfl
  | succ depth ih => exact fun assumed a b _ _ => verdict_compareNodes ih c assumed a b

theorem verdict_eq_unfinished {o : Outcome} :
    o.verdict = .unfinished ↔ o = .error .unfinished := by
  cases o with
  | ok assumed => simp
  | error stop => cases stop <;> simp [Outcome.verdict]

theorem verdict_eq_agreed {o : Outcome} {assumed : Assumed} :
    o.verdict = .agreed assumed ↔ o = .ok assumed := by
  cases o with
  | ok assumed => simp
  | error stop => cases stop <;> simp [Outcome.verdict]

theorem compareWithin_eq_ok {c : Catalog} {depth : Nat} {s S : Assumed} {a b : Attribute}
    (leftPath rightPath : String) :
    compareWithin c depth s a b leftPath rightPath = .ok S ↔ judge c depth s a b = .agreed S := by
  rw [← verdict_eq_agreed, judges_compareWithin]

theorem compareWithin_eq_unfinished {c : Catalog} {depth : Nat} {s : Assumed} {a b : Attribute}
    (leftPath rightPath : String) :
    compareWithin c depth s a b leftPath rightPath = .error .unfinished ↔
      judge c depth s a b = .unfinished := by
  rw [← verdict_eq_unfinished, judges_compareWithin]

theorem checkCompatible_eq_ok {c : Catalog} {a b : Attribute} {la lb : String} :
    c.checkCompatible a b la lb = .ok () ↔ ∃ S, judge c (c.depthBound a b) [] a b = .agreed S := by
  simp only [← compareWithin_eq_ok la lb]
  unfold Catalog.checkCompatible
  cases compareWithin c (c.depthBound a b) [] a b la lb <;> simp [Except.map]

theorem checkCompatible_eq_unfinished {c : Catalog} {a b : Attribute} {la lb : String} :
    c.checkCompatible a b la lb = .error .unfinished ↔
      judge c (c.depthBound a b) [] a b = .unfinished := by
  rw [← compareWithin_eq_unfinished la lb]
  unfold Catalog.checkCompatible
  cases compareWithin c (c.depthBound a b) [] a b la lb <;> simp [Except.map]

end Compatibility
end Toolbridge
