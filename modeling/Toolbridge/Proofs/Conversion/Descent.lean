import Toolbridge.Conversion.Build
import Toolbridge.Proofs.Attribute.Resolve

set_option autoImplicit false

namespace Toolbridge.Conversion

inductive LeadsTo (c : Catalog) : Attribute × Attribute → Attribute × Attribute → Prop where
  | field {x y : Attribute} {left right : List Member} {m other : Member}
      (source : (c.resolve x).type = some (.object left))
      (target : (c.resolve y).type = some (.object right)) (mem : m ∈ right)
      (found : Members.find? left m.name = some other) : LeadsTo c (x, y) (other.attr, m.attr)
  | member {x y : Attribute} {left right : List Member} {m other : Member}
      (source : (c.resolve x).type = some (.union left))
      (target : (c.resolve y).type = some (.union right)) (mem : m ∈ left)
      (found : Members.find? right m.name = some other) : LeadsTo c (x, y) (m.attr, other.attr)
  | element {x y left right : Attribute} (source : (c.resolve x).type = some (.array left))
      (target : (c.resolve y).type = some (.array right)) : LeadsTo c (x, y) (left, right)
  | value {x y leftKey left rightKey right : Attribute}
      (source : (c.resolve x).type = some (.map leftKey left))
      (target : (c.resolve y).type = some (.map rightKey right)) : LeadsTo c (x, y) (left, right)

/-- Two user types other than aliases of primitives. -/
structure NeedsHelper (c : Catalog) (x y : Attribute) : Prop where
  source : (c.userType? x).isSome
  target : (c.userType? y).isSome
  compound : (c.resolve x).isPrimitive = false

/-- A pair below `a` and `b` that is converted by a call. -/
structure Place (c : Catalog) (a b x y : Attribute) : Prop where
  nested : Relation.TransGen (LeadsTo c) (a, b) (x, y)
  needed : NeedsHelper c x y

variable {c : Catalog} {a b x y : Attribute} {p q : Attribute × Attribute}

theorem LeadsTo.parts (h : LeadsTo c p q) :
    c.Part (c.resolve p.1) q.1 ∧ c.Part (c.resolve p.2) q.2 := by
  cases h with
  | field source target mem found =>
    exact ⟨.field source (List.mem_of_find?_eq_some found), .field target mem⟩
  | member source target mem found =>
    exact ⟨.member source mem, .member target (List.mem_of_find?_eq_some found)⟩
  | element source target => exact ⟨.element source, .element target⟩
  | value source target => exact ⟨.value source, .value target⟩

theorem reaches_resolve (c : Catalog) (x : Attribute) : c.Reaches x (c.resolve x) :=
  Catalog.reaches_resolveWithin c c.types.length x

theorem LeadsTo.reaches (h : LeadsTo c p q) : c.Reaches p.1 q.1 ∧ c.Reaches p.2 q.2 := by
  obtain ⟨left, right⟩ := h.parts
  exact ⟨(reaches_resolve c p.1).part left, (reaches_resolve c p.2).part right⟩

theorem reaches_of_descent (h : Relation.ReflTransGen (LeadsTo c) p q) :
    c.Reaches p.1 q.1 ∧ c.Reaches p.2 q.2 := by
  induction h with
  | refl => exact ⟨.refl, .refl⟩
  | tail _ step ih =>
    obtain ⟨left, right⟩ := step.reaches
    exact ⟨ih.1.trans left, ih.2.trans right⟩

theorem Place.reaches (h : Place c a b x y) : c.Reaches a x ∧ c.Reaches b y :=
  reaches_of_descent h.nested.to_reflTransGen

end Toolbridge.Conversion
