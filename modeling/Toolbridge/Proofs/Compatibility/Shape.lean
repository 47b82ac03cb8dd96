import Toolbridge.Proofs.Attribute.Members
import Toolbridge.Proofs.Attribute.Resolve
import Toolbridge.Proofs.Compatibility.Verdict
import Toolbridge.Proofs.Text.NameSet

set_option autoImplicit false

namespace Toolbridge

namespace Compatibility

inductive SameTop (R : Attribute → Attribute → Prop) (a b : Attribute) : Prop where
  | empty (left : a.type = none) (right : b.type = none)
  | primitive {p q : Primitive} (left : a.type = some (.primitive p))
      (right : b.type = some (.primitive q)) (family : p.family = q.family)
  | object {l r : List Member} (left : a.type = some (.object l)) (right : b.type = some (.object r))
      (names : ∀ n, n ∈ l.map (·.name) ↔ n ∈ r.map (·.name))
      (required : ∀ n, n ∈ a.required ↔ n ∈ b.required)
      (fields : ∀ f ∈ l, ∀ g, Members.find? r f.name = some g → R f.attr g.attr)
  | array {l r : Attribute} (left : a.type = some (.array l)) (right : b.type = some (.array r))
      (elements : R l r)
  | map {lk l rk r : Attribute} (left : a.type = some (.map lk l)) (right : b.type = some (.map rk r))
      (keys : R lk rk) (values : R l r)
  | union {l r : List Member} (left : a.type = some (.union l)) (right : b.type = some (.union r))
      (counts : l.length = r.length) (names : ∀ p ∈ l.zip r, p.1.name = p.2.name)
      (members : ∀ p ∈ l.zip r, R p.1.attr p.2.attr)

theorem SameTop.mono {R S : Attribute → Attribute → Prop} {a b : Attribute} (h : SameTop R a b)
    (sub : ∀ x y, R x y → S x y) : SameTop S a b := by
  cases h with
  | empty left right => exact .empty left right
  | primitive left right family => exact .primitive left right family
  | object left right names required fields =>
    exact .object left right names required fun f mem g found => sub _ _ (fields f mem g found)
  | array left right elements => exact .array left right (sub _ _ elements)
  | map left right keys values => exact .map left right (sub _ _ keys) (sub _ _ values)
  | union left right counts names members =>
    exact .union left right counts names fun p mem => sub _ _ (members p mem)

theorem SameTop.parts {R : Attribute → Attribute → Prop} {c : Catalog} {a b : Attribute}
    (h : SameTop R a b) : SameTop (fun x y => R x y ∧ c.Part a x ∧ c.Part b y) a b := by
  cases h with
  | empty left right => exact .empty left right
  | primitive left right family => exact .primitive left right family
  | object left right names required fields =>
    exact .object left right names required fun f mem g found =>
      ⟨fields f mem g found, .field left mem, .field right (Members.find?_mem found).1⟩
  | array left right elements =>
    exact .array left right ⟨elements, .element left, .element right⟩
  | map left right keys values =>
    exact .map left right ⟨keys, .key left, .key right⟩ ⟨values, .value left, .value right⟩
  | union left right counts names members =>
    refine .union left right counts names fun p mem => ?_
    obtain ⟨memL, memR⟩ := List.of_mem_zip mem
    exact ⟨members p mem, .member left memL, .member right memR⟩

theorem SameTop.isEmpty_eq {R : Attribute → Attribute → Prop} {a b : Attribute}
    (h : SameTop R a b) : a.isEmpty = b.isEmpty := by
  cases h with
  | _ => simp only [Attribute.isEmpty, *, Option.isNone_none, Option.isNone_some]

end Compatibility

namespace Catalog

open Compatibility

/-- All pairs agree at the top, aliases followed, and so do their parts in turn. -/
def IsBisimulation (c : Catalog) (R : Attribute → Attribute → Prop) : Prop :=
  ∀ a b, R a b → SameTop R (c.resolve a) (c.resolve b)

def ShapeEquivalent (c : Catalog) (a b : Attribute) : Prop :=
  ∃ R, R a b ∧ c.IsBisimulation R

end Catalog

namespace Compatibility

theorem mem_fieldPairs {left right : List Member} {p : Pair} :
    p ∈ fieldPairs right left ↔
      ∃ f ∈ left, ∃ g, Members.find? right f.name = some g ∧ p = (f.attr, g.attr) := by
  induction left with
  | nil => simp [fieldPairs]
  | cons f rest ih =>
    unfold fieldPairs
    cases found : Members.find? right f.name with
    | none => simp [ih, found]
    | some other => simp [ih, found, eq_comm]

theorem namesAgree_iff {left right : List Member} :
    namesAgree left right = true ↔ ∀ p ∈ left.zip right, p.1.name = p.2.name := by
  induction left generalizing right with
  | nil => simp [namesAgree]
  | cons l left ih =>
    cases right with
    | nil => simp [namesAgree]
    | cons r right => simp [namesAgree, ih]

theorem memberPairs_of_namesAgree {left right : List Member} (h : namesAgree left right = true) :
    memberPairs left right = (left.zip right).map fun p => (p.1.attr, p.2.attr) := by
  induction left generalizing right with
  | nil => rfl
  | cons l left ih =>
    cases right with
    | nil => rfl
    | cons r right =>
      simp only [namesAgree, Bool.and_eq_true, decide_eq_true_eq] at h
      simp [memberPairs, h.1, ih h.2]

theorem mem_memberPairs {left right : List Member} {p : Pair} (h : p ∈ memberPairs left right) :
    ∃ q ∈ left.zip right, p = (q.1.attr, q.2.attr) := by
  induction left generalizing right with
  | nil => simp [memberPairs] at h
  | cons l left ih =>
    cases right with
    | nil => simp [memberPairs] at h
    | cons r right =>
      unfold memberPairs at h
      split at h
      · rcases List.mem_cons.mp h with rfl | h
        · exact ⟨(l, r), List.mem_cons_self, rfl⟩
        · obtain ⟨q, mem, same⟩ := ih h
          exact ⟨q, List.mem_cons_of_mem _ mem, same⟩
      · cases h

theorem objectItinerary_eq {assumed : Assumed} {l r : List Member} {lr rr : List String}
    (names : ∀ n, n ∈ l.map (·.name) ↔ n ∈ r.map (·.name)) (required : ∀ n, n ∈ lr ↔ n ∈ rr) :
    objectItinerary assumed l r lr rr = { assumed, pairs := fieldPairs r l } :=
  if_pos ⟨Text.nameSet_eq_iff.mpr names, Text.nameSet_eq_iff.mpr required⟩

theorem objectItinerary_agrees {assumed : Assumed} {l r : List Member} {lr rr : List String}
    (h : (objectItinerary assumed l r lr rr).agrees = true) :
    (∀ n, n ∈ l.map (·.name) ↔ n ∈ r.map (·.name)) ∧ ∀ n, n ∈ lr ↔ n ∈ rr := by
  unfold objectItinerary at h
  split at h
  · rename_i same
    exact ⟨Text.nameSet_eq_iff.mp same.1, Text.nameSet_eq_iff.mp same.2⟩
  · cases h

variable {c : Catalog} {a b : Attribute} {R : Attribute → Attribute → Prop}

theorem itinerary_of_sameTop (assumed : Assumed) (left : c.userType? a = none)
    (right : c.userType? b = none) (h : SameTop R a b) :
    (itinerary c assumed a b).agrees = true ∧
      ∀ p ∈ (itinerary c assumed a b).pairs, R p.1 p.2 := by
  unfold itinerary
  rw [left, right]
  cases h with
  | empty la lb => simp [la, lb]
  | primitive la lb family => simp [la, lb, shapeItinerary, family]
  | object la lb names required fields =>
    simp only [la, lb, shapeItinerary, objectItinerary_eq names required, true_and]
    intro p mem
    obtain ⟨f, memF, g, found, rfl⟩ := mem_fieldPairs.mp mem
    exact fields f memF g found
  | array la lb elements => simpa [la, lb, shapeItinerary] using elements
  | map la lb keys values => simpa [la, lb, shapeItinerary] using ⟨keys, values⟩
  | union la lb counts names members =>
    have agree := namesAgree_iff.mpr names
    simp only [la, lb, shapeItinerary, counts, if_true, agree, true_and]
    intro p mem
    obtain ⟨q, memQ, rfl⟩ := mem_memberPairs mem
    exact members q memQ

theorem sameTop_of_shapeItinerary {assumed : Assumed} {ta tb : DataType}
    (left : a.type = some ta) (right : b.type = some tb)
    (agrees : (shapeItinerary assumed a.required b.required ta tb).agrees = true)
    (parts : ∀ p ∈ (shapeItinerary assumed a.required b.required ta tb).pairs, R p.1 p.2) :
    SameTop R a b := by
  cases ta with
  | primitive p =>
    cases tb with
    | primitive q => exact .primitive left right (of_decide_eq_true agrees)
    | _ => cases agrees
  | object l =>
    cases tb with
    | object r =>
      obtain ⟨names, required⟩ := objectItinerary_agrees agrees
      simp only [shapeItinerary, objectItinerary_eq names required] at parts
      exact .object left right names required fun f mem g found =>
        parts (f.attr, g.attr) (mem_fieldPairs.mpr ⟨f, mem, g, found, rfl⟩)
    | _ => cases agrees
  | array l =>
    cases tb with
    | array r => exact .array left right (parts (l, r) List.mem_cons_self)
    | _ => cases agrees
  | map lk l =>
    cases tb with
    | map rk r =>
      exact .map left right (parts (lk, rk) List.mem_cons_self)
        (parts (l, r) (List.mem_cons_of_mem _ List.mem_cons_self))
    | _ => cases agrees
  | union l =>
    cases tb with
    | union r =>
      by_cases counts : l.length = r.length
      · simp only [shapeItinerary, if_pos counts] at agrees parts
        rw [memberPairs_of_namesAgree agrees] at parts
        exact .union left right counts (namesAgree_iff.mp agrees) fun p mem =>
          parts _ (List.mem_map_of_mem mem)
      · simp only [shapeItinerary, if_neg counts] at agrees
        cases agrees
    | _ => cases agrees
  | user _ => cases tb <;> cases agrees
  | named _ _ => cases tb <;> cases agrees

theorem sameTop_of_itinerary {assumed : Assumed} (left : c.userType? a = none)
    (right : c.userType? b = none) (agrees : (itinerary c assumed a b).agrees = true)
    (parts : ∀ p ∈ (itinerary c assumed a b).pairs, R p.1 p.2) : SameTop R a b := by
  unfold itinerary at agrees parts
  rw [left, right] at agrees parts
  cases la : a.type with
  | none =>
    cases lb : b.type with
    | none => exact .empty la lb
    | some tb => rw [la, lb] at agrees; cases agrees
  | some ta =>
    cases lb : b.type with
    | none => rw [la, lb] at agrees; cases agrees
    | some tb =>
      rw [la, lb] at agrees parts
      exact sameTop_of_shapeItinerary la lb agrees parts

end Compatibility
end Toolbridge
