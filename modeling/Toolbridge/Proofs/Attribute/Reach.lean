import Toolbridge.Attribute.Basic
import Mathlib.Logic.Relation

set_option autoImplicit false

namespace Toolbridge

namespace Catalog

inductive Part (c : Catalog) : Attribute → Attribute → Prop where
  | field {a : Attribute} {fields : List Member} {m : Member}
      (shape : a.type = some (.object fields)) (mem : m ∈ fields) : Part c a m.attr
  | member {a : Attribute} {members : List Member} {m : Member}
      (shape : a.type = some (.union members)) (mem : m ∈ members) : Part c a m.attr
  | element {a element : Attribute} (shape : a.type = some (.array element)) : Part c a element
  | key {a key value : Attribute} (shape : a.type = some (.map key value)) : Part c a key
  | value {a key value : Attribute} (shape : a.type = some (.map key value)) : Part c a value
  | body {a : Attribute} {t : UserType} (type : c.userType? a = some t) : Part c a t.body

def Reaches (c : Catalog) : Attribute → Attribute → Prop := Relation.ReflTransGen c.Part

def AliasStep (c : Catalog) (a b : Attribute) : Prop :=
  ∃ t, c.userType? a = some t ∧ t.body = b

/-- Every cycle below `a` passes through an object, array, map or union. -/
def NoAliasCycle (c : Catalog) (a : Attribute) : Prop :=
  ∀ x, c.Reaches a x → ¬ Relation.TransGen c.AliasStep x x

def DistinctNames (c : Catalog) (a : Attribute) : Prop :=
  ∀ x y t u, c.Reaches a x → c.Reaches a y → c.userType? x = some t → c.userType? y = some u →
    t.name = u.name → t = u

def NoEmptyBody (c : Catalog) (a : Attribute) : Prop :=
  ∀ x t, c.Reaches a x → c.userType? x = some t → t.body.isEmpty = false

/-- What the comparison of shapes takes for granted of the types on either side. -/
structure Regular (c : Catalog) (a : Attribute) : Prop where
  acyclic : c.NoAliasCycle a
  named : c.DistinctNames a
  filled : c.NoEmptyBody a

variable {c : Catalog} {a b x : Attribute} {t u : UserType}

theorem get_eq_getElem {id : TypeId} (inside : id < c.types.length) : c.get id = c.types[id] := by
  simp [get, inside]

theorem Reaches.refl : c.Reaches a a := Relation.ReflTransGen.refl

theorem Reaches.part (h : c.Reaches a x) (step : c.Part x b) : c.Reaches a b := h.tail step

theorem Part.reaches (step : c.Part a b) : c.Reaches a b := Reaches.refl.part step

theorem Reaches.trans (h : c.Reaches a x) (h' : c.Reaches x b) : c.Reaches a b :=
  Relation.ReflTransGen.trans h h'

theorem Reaches.mem_of_closed {attrs : List Attribute}
    (closed : ∀ x ∈ attrs, ∀ y, c.Part x y → y ∈ attrs) (mem : a ∈ attrs) (path : c.Reaches a x) :
    x ∈ attrs := by
  induction path with
  | refl => exact mem
  | tail _ step ih => exact closed _ ih _ step

theorem AliasStep.part (step : c.AliasStep a b) : c.Part a b := by
  obtain ⟨t, type, rfl⟩ := step
  exact .body type

theorem reaches_of_aliases (h : Relation.ReflTransGen c.AliasStep a b) : c.Reaches a b :=
  h.lift id fun _ _ step => step.part

theorem NoAliasCycle.below (h : c.NoAliasCycle a) (reach : c.Reaches a x) : c.NoAliasCycle x :=
  fun y hy => h y (reach.trans hy)

theorem DistinctNames.below (h : c.DistinctNames a) (reach : c.Reaches a x) : c.DistinctNames x :=
  fun y z t u hy hz => h y z t u (reach.trans hy) (reach.trans hz)

theorem NoEmptyBody.below (h : c.NoEmptyBody a) (reach : c.Reaches a x) : c.NoEmptyBody x :=
  fun y t hy => h y t (reach.trans hy)

theorem Regular.below (h : c.Regular a) (reach : c.Reaches a x) : c.Regular x :=
  ⟨h.acyclic.below reach, h.named.below reach, h.filled.below reach⟩

theorem Regular.body (h : c.Regular a) (type : c.userType? a = some t) : c.Regular t.body :=
  h.below (Part.body type).reaches

theorem type_eq_of_userType? (h : c.userType? a = some t) :
    (∃ id, a.type = some (.user id) ∧ t = c.get id) ∨
      ∃ name body, a.type = some (.named name body) ∧ t = { name, body } := by
  obtain ⟨type, required, default⟩ := a
  cases type with
  | none => simp [userType?] at h
  | some type =>
    cases type with
    | user id => exact .inl ⟨id, rfl, (Option.some.inj h).symm⟩
    | named name body => exact .inr ⟨name, body, rfl, (Option.some.inj h).symm⟩
    | _ => simp [userType?] at h

theorem userType?_user {id : TypeId} (shape : a.type = some (.user id)) :
    c.userType? a = some (c.get id) := by
  simp only [userType?, shape]

theorem userType?_named {name : String} {body : Attribute}
    (shape : a.type = some (.named name body)) : c.userType? a = some { name, body } := by
  simp only [userType?, shape]

/-- A chain of aliases ends within one step where no body is a user type itself. -/
theorem noAliasCycle_of_bodies
    (h : ∀ x t, c.Reaches a x → c.userType? x = some t → c.userType? t.body = none) :
    c.NoAliasCycle a := by
  intro x reach cycle
  obtain ⟨y, ⟨t, type, rfl⟩, rest⟩ := Relation.TransGen.head'_iff.mp cycle
  have back : c.userType? t.body = none := h x t reach type
  rcases Relation.ReflTransGen.cases_head rest with same | ⟨z, ⟨u, type', -⟩, -⟩
  · rw [same, type] at back
    cases back
  · rw [type'] at back
    cases back

end Catalog
end Toolbridge
