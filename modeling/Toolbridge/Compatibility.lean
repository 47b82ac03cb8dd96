import Toolbridge.Attribute.Walk
import Toolbridge.Text.NameSet
import Toolbridge.Text.Quoted

set_option autoImplicit false

/-!
# Compatibility of shapes

Whether values of one attribute can be converted into another field for field. Objects need the same
field names and the same required ones, primitives the same family, and arrays, maps and unions are
compared part by part. A pair of user types met before is taken to be compatible, by the names of
the two types.

The comparison tells where the shapes part and why; the walk is left unfinished where recursion on
the two sides never brings two user types together.
-/
namespace Toolbridge

namespace Compatibility

inductive Reason where
  | oneEmpty
  | families (left right : PrimitiveFamily)
  | fieldSets (onlyLeft onlyRight : List String)
  | requiredSets (left right : List String)
  | memberCounts (left right : Nat)
  | memberNames (left right : String)
  | kinds (left right : Kind)
deriving DecidableEq, Repr

def Reason.text : Reason → String
  | .oneEmpty => "one side is empty"
  | .families l r => l.name ++ " vs " ++ r.name
  | .fieldSets l r =>
    "field sets differ (only left: " ++ Text.quoteList l ++ ", only right: " ++ Text.quoteList r
      ++ ")"
  | .requiredSets l r =>
    "required fields differ (" ++ Text.quoteSet l ++ " vs " ++ Text.quoteSet r ++ ")"
  | .memberCounts l r =>
    "union member counts differ (" ++ toString l ++ " vs " ++ toString r ++ ")"
  | .memberNames l r => "union members differ (" ++ l ++ " vs " ++ r ++ ")"
  | .kinds l r => l.name ++ " vs " ++ r.name

end Compatibility

/-- The first place where two shapes part, on either side, and why. -/
structure Incompatibility where
  left : String
  right : String
  reason : String
deriving DecidableEq, Repr

def Incompatibility.message (e : Incompatibility) : String :=
  e.left ++ " is not compatible with " ++ e.right ++ ": " ++ e.reason

namespace Compatibility

/-- Pairs of names of user types taken to be compatible. -/
abbrev Assumed := List (String × String)

abbrev Outcome := Except (Stop Incompatibility) Assumed

abbrev Comparison := Assumed → Attribute → Attribute → String → String → Outcome

def diverge (reason : Reason) (leftPath rightPath : String) : Outcome :=
  .error (.failed ⟨leftPath, rightPath, reason.text⟩)

/-- The fields in the order of the left side, each with the first of its name on the right. -/
def compareFields (compare : Comparison) (right : List Member) (leftPath rightPath : String) :
    Assumed → List Member → Outcome
  | assumed, [] => .ok assumed
  | assumed, f :: rest =>
    match Members.find? right f.name with
    | none => compareFields compare right leftPath rightPath assumed rest
    | some other =>
      match compare assumed f.attr other.attr (leftPath ++ "." ++ f.name)
          (rightPath ++ "." ++ f.name) with
      | .ok assumed => compareFields compare right leftPath rightPath assumed rest
      | stop => stop

def compareMembers (compare : Comparison) (leftPath rightPath : String) :
    Assumed → List Member → List Member → Outcome
  | assumed, l :: left, r :: right =>
    if l.name = r.name then
      match compare assumed l.attr r.attr (leftPath ++ "<" ++ l.name ++ ">")
          (rightPath ++ "<" ++ r.name ++ ">") with
      | .ok assumed => compareMembers compare leftPath rightPath assumed left right
      | stop => stop
    else diverge (.memberNames l.name r.name) leftPath rightPath
  | assumed, _, _ => .ok assumed

def onlyIn (names others : List String) : List String := names.filter (!others.contains ·)

def compareObjects (compare : Comparison) (assumed : Assumed) (left right : List Member)
    (leftRequired rightRequired : List String) (leftPath rightPath : String) : Outcome :=
  let l := Text.nameSet (left.map (·.name))
  let r := Text.nameSet (right.map (·.name))
  if l = r then
    let lr := Text.nameSet leftRequired
    let rr := Text.nameSet rightRequired
    if lr = rr then compareFields compare right leftPath rightPath assumed left
    else diverge (.requiredSets lr rr) leftPath rightPath
  else diverge (.fieldSets (onlyIn l r) (onlyIn r l)) leftPath rightPath

def compareNodes (c : Catalog) (compare : Comparison) : Comparison :=
  fun assumed a b leftPath rightPath =>
    match a.type, b.type with
    | none, none => .ok assumed
    | none, some _ => diverge .oneEmpty leftPath rightPath
    | some _, none => diverge .oneEmpty leftPath rightPath
    | some ta, some tb =>
      match c.userType? a, c.userType? b with
      | some ua, some ub =>
        if assumed.contains (ua.name, ub.name) then .ok assumed
        else compare ((ua.name, ub.name) :: assumed) ua.body ub.body leftPath rightPath
      | some ua, none => compare assumed ua.body b leftPath rightPath
      | none, some ub => compare assumed a ub.body leftPath rightPath
      | none, none =>
        match ta, tb with
        | .primitive p, .primitive q =>
          if p.family = q.family then .ok assumed
          else diverge (.families p.family q.family) leftPath rightPath
        | .object left, .object right =>
          compareObjects compare assumed left right a.required b.required leftPath rightPath
        | .array left, .array right =>
          compare assumed left right (leftPath ++ "[]") (rightPath ++ "[]")
        | .map leftKey left, .map rightKey right =>
          match compare assumed leftKey rightKey (leftPath ++ "[key]") (rightPath ++ "[key]") with
          | .ok assumed =>
            compare assumed left right (leftPath ++ "[value]") (rightPath ++ "[value]")
          | stop => stop
        | .union left, .union right =>
          if left.length = right.length then
            compareMembers compare leftPath rightPath assumed left right
          else diverge (.memberCounts left.length right.length) leftPath rightPath
        | _, _ => diverge (.kinds ta.kind tb.kind) leftPath rightPath

def compareWithin (c : Catalog) : Nat → Comparison
  | 0 => fun _ _ _ _ _ => .error .unfinished
  | depth + 1 => compareNodes c (compareWithin c depth)

end Compatibility

def Catalog.checkCompatible (c : Catalog) (a b : Attribute) (leftLabel rightLabel : String) :
    Except (Stop Incompatibility) Unit :=
  (Compatibility.compareWithin c (c.depthBound a b) [] a b leftLabel rightLabel).map fun _ => ()

end Toolbridge
