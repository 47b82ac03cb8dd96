import Toolbridge.Proofs.Compatibility.Decides
import Toolbridge.Proofs.Compatibility.Ending
import Mathlib.Data.List.Zip

set_option autoImplicit false

/-!
# The verdict is an equivalence

The comparison of an attribute with itself only ever meets an attribute with itself. It finds no
difference there, and it ends: between two meetings of user types it goes down one tree. No name has
to stand for one type for that. Between regular attributes the verdict is equivalence of shapes as
soon as there is one, and this is symmetric, though a comparison walks through the fields of its
left side, and transitive.
-/
namespace Toolbridge

namespace Catalog

def DistinctFields (c : Catalog) (a : Attribute) : Prop :=
  ∀ x fields, c.Reaches a x → x.type = some (.object fields) → (fields.map (·.name)).Nodup

theorem DistinctFields.below {c : Catalog} {a x : Attribute} (h : c.DistinctFields a)
    (reach : c.Reaches a x) : c.DistinctFields x :=
  fun y fields path => h y fields (reach.trans path)

end Catalog

namespace Compatibility

variable {c : Catalog} {a b d x y z : Attribute} {R S : Attribute → Attribute → Prop}

theorem mem_zip_self {members : List Member} {p : Member × Member} (mem : p ∈ members.zip members) :
    p.1 = p.2 := by
  rw [List.zip_eq_zipWith, List.zipWith_self] at mem
  obtain ⟨m, -, rfl⟩ := List.mem_map.mp mem
  rfl

theorem sameTop_self (bare : c.userType? x = none) (distinct : c.DistinctFields x) :
    SameTop Eq x x := by
  cases shape : x.type with
  | none => exact .empty shape shape
  | some type =>
    cases type with
    | primitive p => exact .primitive shape shape rfl
    | object fields =>
      refine .object shape shape (fun n => Iff.rfl) (fun n => Iff.rfl) fun f mem g found => ?_
      have first := Members.find?_of_mem (distinct x fields .refl shape) mem
      rw [Option.some.inj (first.symm.trans found)]
    | array element => exact .array shape shape rfl
    | map key value => exact .map shape shape rfl rfl
    | union members =>
      refine .union shape shape rfl (fun p mem => ?_) fun p mem => ?_
      · rw [mem_zip_self mem]
      · rw [mem_zip_self mem]
    | user id => simp [Catalog.userType?, shape] at bare
    | named name body => simp [Catalog.userType?, shape] at bare

theorem itinerary_self (s : Assumed) (distinct : c.DistinctFields x) :
    (itinerary c s x x).agrees = true ∧ ∀ p ∈ (itinerary c s x x).pairs, p.1 = p.2 := by
  cases type : c.userType? x with
  | none => exact itinerary_of_sameTop s type type (sameTop_self type distinct)
  | some t =>
    by_cases known : (t.name, t.name) ∈ s
    · simp [itinerary_known type type known]
    · simp [itinerary_new type type known]

theorem judge_self_ne_parted (n : Nat) (s : Assumed) (distinct : c.DistinctFields x) :
    judge c n s x x ≠ .parted := by
  induction n generalizing s x with
  | zero => nofun
  | succ n ih =>
    change (itinerary c s x x).verdict (judge c n) ≠ .parted
    obtain ⟨agrees, same⟩ := itinerary_self s distinct
    unfold Itinerary.verdict
    rw [agrees]
    refine along_ne_parted (fun p mem s' => ?_) _
    rw [← same p mem]
    exact ih s' (distinct.below (itinerary_reaches p mem).1)

namespace Visit

variable {v w : Visit}

structure Doubles (c : Catalog) (a : Attribute) (v : Visit) : Prop where
  same : v.left = v.right
  below : c.Reaches a v.left

theorem Doubles.calls (distinct : c.DistinctFields a) (h : v.Doubles c a) (call : v.Calls c w) :
    w.Doubles c a := by
  obtain ⟨before, after, depth, split, -⟩ := call
  have mem : (w.left, w.right) ∈ (itinerary c v.assumed v.left v.right).pairs := by
    change _ ∈ (v.look c).pairs
    simp [split]
  rw [← h.same] at mem
  exact ⟨(itinerary_self v.assumed (distinct.below h.below)).2 _ mem,
    h.below.trans (itinerary_reaches _ mem).1⟩

theorem Doubles.reached (distinct : c.DistinctFields a) (h : v.Doubles c a)
    (path : Relation.ReflTransGen (Calls c) v w) : w.Doubles c a := by
  induction path with
  | refl => exact h
  | tail _ call ih => exact ih.calls distinct call

theorem Doubles.smaller (h : v.Doubles c a) (call : v.OneSided c w) :
    w.right.nodes < v.right.nodes := by
  obtain ⟨call, bare⟩ := call
  rw [h.same, or_self] at bare
  rcases call.inline bare with ⟨⟨t, type, -⟩, -⟩ | less
  · simp [h.same, bare] at type
  · exact less

theorem Doubles.smaller_of_path (distinct : c.DistinctFields a) (h : v.Doubles c a)
    (path : Relation.TransGen (OneSided c) v w) :
    w.Doubles c a ∧ w.right.nodes < v.right.nodes := by
  induction path with
  | single call => exact ⟨h.calls distinct call.1, h.smaller call⟩
  | tail _ call ih => exact ⟨ih.1.calls distinct call.1, (ih.1.smaller call).trans ih.2⟩

theorem not_recurs_self (distinct : c.DistinctFields a) : ¬ Recurs c ⟨[], a, a⟩ := by
  rintro ⟨v, path, cycle⟩
  have start : Doubles c a ⟨[], a, a⟩ := ⟨rfl, .refl⟩
  -- a cycle of calls would lead from an attribute down its tree to itself
  have smaller := ((start.reached distinct path).smaller_of_path distinct cycle).2
  omega

end Visit

theorem checkCompatible_self (distinct : c.DistinctFields a) (leftLabel rightLabel : String) :
    c.checkCompatible a a leftLabel rightLabel = .ok () := by
  have ends := Visit.endsWithin_of_not_recurs (Visit.not_recurs_self distinct)
  have agrees := judge_self_ne_parted (c.depthBound a a) [] distinct
  rw [checkCompatible_eq_ok]
  cases verdict : judge c (c.depthBound a a) [] a a with
  | agreed S => exact ⟨S, rfl⟩
  | parted => exact absurd verdict agrees
  | unfinished => exact absurd verdict ends

theorem mem_zip_swap {left right : List Member} {p : Member × Member} (mem : p ∈ left.zip right) :
    p.swap ∈ right.zip left := by
  rw [← List.zip_swap]
  exact List.mem_map_of_mem mem

theorem SameTop.symm (distinct : ∀ fields, y.type = some (.object fields) →
      (fields.map (·.name)).Nodup) (h : SameTop R x y) :
    SameTop (fun v u => R u v) y x := by
  cases h with
  | empty left right => exact .empty right left
  | primitive left right family => exact .primitive right left family.symm
  | object left right names required fields =>
    refine .object right left (fun n => (names n).symm) (fun n => (required n).symm) ?_
    intro g mem f found
    obtain ⟨memF, same⟩ := Members.find?_mem found
    exact fields f memF g (same ▸ Members.find?_of_mem (distinct _ right) mem)
  | array left right elements => exact .array right left elements
  | map left right keys values => exact .map right left keys values
  | @union l r left right counts names members =>
    exact .union right left counts.symm (fun p mem => (names _ (mem_zip_swap mem)).symm)
      fun p mem => members _ (mem_zip_swap mem)

theorem exists_mem_zip_between {left middle right : List Member} {p : Member × Member}
    (counts : left.length = middle.length) (mem : p ∈ left.zip right) :
    ∃ m, (p.1, m) ∈ left.zip middle ∧ (m, p.2) ∈ middle.zip right := by
  obtain ⟨i, inside, rfl⟩ := List.mem_iff_getElem.mp mem
  rw [List.length_zip] at inside
  have fits : i < middle.length := by omega
  refine ⟨middle[i], List.mem_iff_getElem.mpr ⟨i, ?_, ?_⟩, List.mem_iff_getElem.mpr ⟨i, ?_, ?_⟩⟩
  · simp only [List.length_zip]; omega
  · simp only [List.getElem_zip]
  · simp only [List.length_zip]; omega
  · simp only [List.getElem_zip]

theorem SameTop.trans (h : SameTop R x y) (h' : SameTop S y z) :
    SameTop (Relation.Comp R S) x z := by
  cases h with
  | empty left middle =>
    cases h' with
    | empty _ right => exact .empty left right
    | _ middle' => simp [middle] at middle'
  | primitive left middle family =>
    cases h' with
    | primitive middle' right family' =>
      obtain ⟨rfl⟩ : _ = _ := by simpa [middle] using middle'
      exact .primitive left right (family.trans family')
    | _ middle' => simp [middle] at middle'
  | object left middle names required fields =>
    cases h' with
    | object middle' right names' required' fields' =>
      obtain ⟨rfl⟩ : _ = _ := by simpa [middle] using middle'
      refine .object left right (fun n => (names n).trans (names' n))
        (fun n => (required n).trans (required' n)) fun f mem h found => ?_
      obtain ⟨g, between⟩ := Members.find?_of_name ((names f.name).mp (List.mem_map_of_mem mem))
      obtain ⟨memG, same⟩ := Members.find?_mem between
      exact ⟨g.attr, fields f mem g between, fields' g memG h (same.symm ▸ found)⟩
    | _ middle' => simp [middle] at middle'
  | array left middle elements =>
    cases h' with
    | array middle' right elements' =>
      obtain ⟨rfl⟩ : _ = _ := by simpa [middle] using middle'
      exact .array left right ⟨_, elements, elements'⟩
    | _ middle' => simp [middle] at middle'
  | map left middle keys values =>
    cases h' with
    | map middle' right keys' values' =>
      obtain ⟨rfl, rfl⟩ : _ ∧ _ := by simpa [middle] using middle'
      exact .map left right ⟨_, keys, keys'⟩ ⟨_, values, values'⟩
    | _ middle' => simp [middle] at middle'
  | union left middle counts names members =>
    cases h' with
    | union middle' right counts' names' members' =>
      obtain ⟨rfl⟩ : _ = _ := by simpa [middle] using middle'
      refine .union left right (counts.trans counts') (fun p mem => ?_) fun p mem => ?_
      · obtain ⟨m, memL, memR⟩ := exists_mem_zip_between counts mem
        exact (names _ memL).trans (names' _ memR)
      · obtain ⟨m, memL, memR⟩ := exists_mem_zip_between counts mem
        exact ⟨m.attr, members _ memL, members' _ memR⟩
    | _ middle' => simp [middle] at middle'

end Compatibility

namespace Catalog

open Compatibility

variable {c : Catalog} {a b d : Attribute}

theorem ShapeEquivalent.symm (distinct : c.DistinctFields b) (h : c.ShapeEquivalent a b) :
    c.ShapeEquivalent b a := by
  obtain ⟨R, related, bisimulation⟩ := h
  -- the converse alone is not enough: fields are looked up by name only below `b`
  refine ⟨fun v u => R u v ∧ c.Reaches b v, ⟨related, .refl⟩, ?_⟩
  rintro v u ⟨related, below⟩
  have there := below.trans (Catalog.reaches_resolveWithin c c.types.length v)
  have top := (bisimulation u v related).parts (c := c)
  refine (top.symm fun fields => distinct _ fields there).mono fun v' u' part => ?_
  obtain ⟨related', -, partV⟩ := part
  exact ⟨related', there.part partV⟩

theorem ShapeEquivalent.trans (h : c.ShapeEquivalent a b) (h' : c.ShapeEquivalent b d) :
    c.ShapeEquivalent a d := by
  obtain ⟨R, related, bisimulation⟩ := h
  obtain ⟨S, related', bisimulation'⟩ := h'
  refine ⟨Relation.Comp R S, ⟨b, related, related'⟩, ?_⟩
  rintro u w ⟨v, left, right⟩
  exact (bisimulation u v left).trans (bisimulation' v w right)

end Catalog

namespace Compatibility

variable {c : Catalog} {a b : Attribute}

theorem shapeEquivalent_of_ok {la lb : String} (regularA : c.Regular a) (regularB : c.Regular b)
    (h : c.checkCompatible a b la lb = .ok ()) : c.ShapeEquivalent a b := by
  obtain ⟨S, agreed⟩ := checkCompatible_eq_ok.mp h
  exact (accepted_of_agreed regularA regularB agreed).shapeEquivalent

theorem ok_or_unfinished (la lb : String) (regularA : c.Regular a) (regularB : c.Regular b)
    (h : c.ShapeEquivalent a b) :
    c.checkCompatible a b la lb = .ok () ∨ c.checkCompatible a b la lb = .error .unfinished := by
  obtain ⟨R, related, bisimulation⟩ := h
  have together := judge_ne_parted bisimulation (c.depthBound a b) [] regularA regularB
    (bisimulation a b related)
  rw [checkCompatible_eq_ok, checkCompatible_eq_unfinished]
  cases verdict : judge c (c.depthBound a b) [] a b with
  | agreed S => exact .inl ⟨S, rfl⟩
  | parted => exact absurd verdict together
  | unfinished => exact .inr rfl

theorem ok_of_swapped {la lb la' lb' : String} (regularA : c.Regular a) (regularB : c.Regular b)
    (distinct : c.DistinctFields b) (h : c.checkCompatible a b la lb = .ok ())
    (ends : c.checkCompatible b a lb' la' ≠ .error .unfinished) :
    c.checkCompatible b a lb' la' = .ok () := by
  have same := (shapeEquivalent_of_ok regularA regularB h).symm distinct
  exact (ok_or_unfinished lb' la' regularB regularA same).resolve_right ends

structure Comparable (c : Catalog) (a : Attribute) : Prop where
  regular : c.Regular a
  distinct : c.DistinctFields a

/-- The verdict is reflexive, even where names are shared and aliases go round in circles. Between
comparable attributes it is symmetric and transitive, as far as the comparisons come to an end. -/
theorem verdict_equivalence (c : Catalog) :
    (∀ a leftLabel rightLabel, c.DistinctFields a →
      c.checkCompatible a a leftLabel rightLabel = .ok ()) ∧
    (∀ a b la lb la' lb', Comparable c a → Comparable c b →
      c.checkCompatible a b la lb ≠ .error .unfinished →
      c.checkCompatible b a lb' la' ≠ .error .unfinished →
      (c.checkCompatible a b la lb = .ok () ↔ c.checkCompatible b a lb' la' = .ok ())) ∧
    ∀ a b d la lb lb' ld la' ld', Comparable c a → Comparable c b → Comparable c d →
      c.checkCompatible a b la lb = .ok () → c.checkCompatible b d lb' ld = .ok () →
      ∀ e, c.checkCompatible a d la' ld' ≠ .error (.failed e) := by
  refine ⟨fun a la lb distinct => checkCompatible_self distinct la lb, ?_, ?_⟩
  · intro a b la lb la' lb' fitA fitB ends ends'
    constructor
    · intro h
      exact ok_of_swapped fitA.regular fitB.regular fitB.distinct h ends'
    · intro h
      exact ok_of_swapped fitB.regular fitA.regular fitA.distinct h ends
  · intro a b d la lb lb' ld la' ld' fitA fitB fitD first second e failed
    have same := (shapeEquivalent_of_ok fitA.regular fitB.regular first).trans
      (shapeEquivalent_of_ok fitB.regular fitD.regular second)
    have verdict := ok_or_unfinished la' ld' fitA.regular fitD.regular same
    rw [failed] at verdict
    simp at verdict

/-! Three recursive types, the second with its fields the other way round. -/

namespace Rotated

def reference (id : TypeId) : Attribute := .ofType (.user id)

def label : Attribute := .ofType (.primitive .string)

def next (id : TypeId) : Member := ⟨"next", reference id⟩

def node (fields : List Member) : Attribute := .ofType (.object fields)

def catalog : Catalog :=
  ⟨[{ name := "Chain", body := node [⟨"label", label⟩, next 0] },
    { name := "Link", body := node [next 1, ⟨"label", label⟩] },
    { name := "Hoop", body := node [⟨"label", label⟩, next 2] }]⟩

variable {id : TypeId} {fields : List Member} {x : Attribute}

theorem reaches (known : (catalog.get id).body = node fields)
    (only : ∀ m ∈ fields, m = next id ∨ m = ⟨"label", label⟩)
    (h : catalog.Reaches (reference id) x) : x = reference id ∨ x = node fields ∨ x = label := by
  induction h with
  | refl => exact .inl rfl
  | tail _ step ih =>
    rcases ih with rfl | rfl | rfl
    · cases step with
      | body type =>
        cases type
        exact .inr (.inl known)
      | _ shape => cases shape
    · cases step with
      | field shape mem =>
        cases shape
        rcases only _ mem with rfl | rfl
        · exact .inl rfl
        · exact .inr (.inr rfl)
      | body type => cases type
      | _ shape => cases shape
    · cases step with
      | body type => cases type
      | _ shape => cases shape

theorem comparable (fields : List Member) (known : (catalog.get id).body = node fields)
    (only : ∀ m ∈ fields, m = next id ∨ m = ⟨"label", label⟩)
    (distinct : (fields.map (·.name)).Nodup) : Comparable catalog (reference id) := by
  have type : ∀ y t, catalog.Reaches (reference id) y → catalog.userType? y = some t →
      t = catalog.get id := by
    intro y t reach type
    rcases reaches known only reach with rfl | rfl | rfl
    · exact (Option.some.inj type).symm
    · cases type
    · cases type
  refine ⟨⟨Catalog.noAliasCycle_of_bodies fun y t reach h => ?_, ?_, fun y t reach h => ?_⟩, ?_⟩
  · rw [type y t reach h, known]
    rfl
  · intro y z t u reachY reachZ left right _
    rw [type y t reachY left, type z u reachZ right]
  · rw [type y t reach h, known]
    rfl
  · intro y l reach shape
    rcases reaches known only reach with rfl | rfl | rfl
    · cases shape
    · cases shape
      exact distinct
    · cases shape

theorem chain : Comparable catalog (reference 0) :=
  comparable [⟨"label", label⟩, next 0] rfl (by simp) (by decide)

theorem link : Comparable catalog (reference 1) :=
  comparable [next 1, ⟨"label", label⟩] rfl (by simp) (by decide)

theorem hoop : Comparable catalog (reference 2) :=
  comparable [⟨"label", label⟩, next 2] rfl (by simp) (by decide)

theorem chain_link : catalog.checkCompatible (reference 0) (reference 1) "" "" = .ok () := rfl

theorem link_chain : catalog.checkCompatible (reference 1) (reference 0) "" "" = .ok () := rfl

theorem link_node : catalog.checkCompatible (reference 1) (reference 2) "" "" = .ok () := rfl

end Rotated

theorem rotated_equivalence :
    Rotated.catalog.checkCompatible (Rotated.reference 1) (Rotated.reference 1) "" "" = .ok () ∧
      (Rotated.catalog.checkCompatible (Rotated.reference 0) (Rotated.reference 1) "" "" = .ok () ↔
        Rotated.catalog.checkCompatible (Rotated.reference 1) (Rotated.reference 0) "" ""
          = .ok ()) ∧
      ∀ e, Rotated.catalog.checkCompatible (Rotated.reference 0) (Rotated.reference 2) "" "" ≠
        .error (.failed e) := by
  obtain ⟨reflexive, symmetric, transitive⟩ := verdict_equivalence Rotated.catalog
  refine ⟨reflexive _ "" "" Rotated.link.distinct, ?_, ?_⟩
  · refine symmetric _ _ "" "" "" "" Rotated.chain Rotated.link ?_ ?_
    · rw [Rotated.chain_link]
      nofun
    · rw [Rotated.link_chain]
      nofun
  · exact transitive _ _ _ "" "" "" "" "" "" Rotated.chain Rotated.link Rotated.hoop
      Rotated.chain_link Rotated.link_node

end Compatibility
end Toolbridge
