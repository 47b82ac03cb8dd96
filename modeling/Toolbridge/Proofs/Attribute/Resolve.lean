import Toolbridge.Proofs.Attribute.Reach

set_option autoImplicit false

/-!
# Following aliases to their end

`resolve` takes as many steps as there are types in the catalog. Below an attribute without cyclic
aliases and without empty bodies this is enough: the bodies passed on the way are pairwise different
bodies of the catalog. What `resolve` finds is then the one attribute at the end of the chain.
-/
namespace Toolbridge

namespace Catalog

variable {c : Catalog} {a b r : Attribute} {t : UserType}

/-- `r` is no user type and stands at the end of the chain of aliases from `a`. -/
inductive Settles (c : Catalog) : Attribute → Attribute → Prop where
  | here {a : Attribute} (bare : c.userType? a = none) : Settles c a a
  | body {a r : Attribute} {t : UserType} (type : c.userType? a = some t)
      (rest : Settles c t.body r) : Settles c a r

theorem Settles.reaches (h : c.Settles a r) : c.Reaches a r := by
  induction h with
  | here => exact Reaches.refl
  | body type _ ih => exact (Part.body type).reaches.trans ih

theorem Settles.unique {s : Attribute} (h : c.Settles a r) (h' : c.Settles a s) : r = s := by
  induction h with
  | here bare =>
    cases h' with
    | here => rfl
    | body type => rw [bare] at type; cases type
  | body type _ ih =>
    cases h' with
    | here bare => rw [type] at bare; cases bare
    | body type' rest' =>
      rw [type] at type'
      exact ih (Option.some.inj type' ▸ rest')

theorem Settles.of_aliases {b : Attribute} (h : c.Settles b r)
    (chain : Relation.ReflTransGen c.AliasStep a b) : c.Settles a r := by
  induction chain using Relation.ReflTransGen.head_induction_on with
  | refl => exact h
  | head step _ ih =>
    obtain ⟨t, type, rfl⟩ := step
    exact .body type ih

theorem aliases_bare (c : Catalog) (a : Attribute) :
    Relation.ReflTransGen c.AliasStep a a.bare := by
  induction a using Attribute.bare.induct with
  | case1 name body required default ih =>
    rw [Attribute.bare]
    exact .head ⟨_, userType?_named rfl, rfl⟩ ih
  | case2 a other =>
    rw [Attribute.bare]
    exact other

theorem bare_ne_named (a : Attribute) (name : String) (body : Attribute) :
    a.bare.type ≠ some (.named name body) := by
  induction a using Attribute.bare.induct with
  | case1 _ _ _ _ ih =>
    rw [Attribute.bare]
    exact ih
  | case2 a other =>
    rw [Attribute.bare]
    · intro shape
      obtain ⟨type, required, default⟩ := a
      change type = _ at shape
      exact other name body required default (by rw [shape])
    · exact other

theorem bare_user_or_none (c : Catalog) (a : Attribute) :
    (∃ id, a.bare.type = some (.user id)) ∨ c.userType? a.bare = none := by
  cases h : c.userType? a.bare with
  | none => exact .inr rfl
  | some t =>
    rcases type_eq_of_userType? h with ⟨id, shape, -⟩ | ⟨name, body, shape, -⟩
    · exact .inl ⟨id, shape⟩
    · exact absurd shape (bare_ne_named a name body)

theorem resolveWithin_of_none (steps : Nat) (bare : c.userType? a.bare = none) :
    c.resolveWithin steps a = a.bare := by
  cases steps with
  | zero => rfl
  | succ steps =>
    rw [resolveWithin]
    split
    · rename_i id shape
      rw [userType?_user shape] at bare
      cases bare
    · rfl

theorem resolveWithin_of_user {id : TypeId} (steps : Nat) (shape : a.bare.type = some (.user id)) :
    c.resolveWithin (steps + 1) a = c.resolveWithin steps (c.get id).body := by
  rw [resolveWithin, shape]

theorem reaches_resolveWithin (c : Catalog) (steps : Nat) (a : Attribute) :
    c.Reaches a (c.resolveWithin steps a) := by
  induction steps generalizing a with
  | zero => exact reaches_of_aliases (aliases_bare c a)
  | succ steps ih =>
    rw [resolveWithin]
    split
    · rename_i id shape
      have step : c.Part a.bare (c.get id).body := .body (userType?_user shape)
      exact ((reaches_of_aliases (aliases_bare c a)).part step).trans (ih _)
    · exact reaches_of_aliases (aliases_bare c a)

theorem get_of_le {id : TypeId} (h : c.types.length ≤ id) : c.get id = default := by
  simp only [get, List.getD_eq_getElem?_getD, List.getElem?_eq_none h, Option.getD_none]

theorem NoEmptyBody.lt_length {id : TypeId} (h : c.NoEmptyBody a)
    (shape : a.type = some (.user id)) : id < c.types.length := by
  refine Nat.lt_of_not_le fun outside => ?_
  have empty := h a (c.get id) Reaches.refl (userType?_user shape)
  rw [get_of_le outside] at empty
  cases empty

/-- The types whose bodies lie behind `a` on a chain of aliases. -/
structure Passed (c : Catalog) (passed : List TypeId) (a : Attribute) : Prop where
  nodup : passed.Nodup
  known : ∀ id ∈ passed, id < c.types.length
  behind : ∀ id ∈ passed, Relation.ReflTransGen c.AliasStep (c.get id).body a
  acyclic : ∀ id ∈ passed, ¬ Relation.TransGen c.AliasStep (c.get id).body (c.get id).body

theorem Passed.length_le {passed : List TypeId} (h : c.Passed passed a) :
    passed.length ≤ c.types.length := by
  have sub : passed ⊆ List.range c.types.length :=
    fun id mem => List.mem_range.mpr (h.known id mem)
  simpa only [List.length_range] using h.nodup.length_le_of_subset sub

theorem Passed.next {passed : List TypeId} {id : TypeId} (h : c.Passed passed a)
    (regular : c.Regular a) (shape : a.bare.type = some (.user id)) :
    c.Passed (id :: passed) (c.get id).body := by
  have toBare := aliases_bare c a
  have step : c.AliasStep a.bare (c.get id).body := ⟨_, userType?_user shape, rfl⟩
  have reach : c.Reaches a (c.get id).body := (reaches_of_aliases toBare).part step.part
  have new : id ∉ passed := by
    intro mem
    have back := Relation.TransGen.tail' ((h.behind id mem).trans toBare) step
    exact h.acyclic id mem back
  refine ⟨List.nodup_cons.mpr ⟨new, h.nodup⟩, ?_, ?_, ?_⟩
  · intro other mem
    rcases List.mem_cons.mp mem with rfl | mem
    · exact (regular.filled.below (reaches_of_aliases toBare)).lt_length shape
    · exact h.known other mem
  · intro other mem
    rcases List.mem_cons.mp mem with rfl | mem
    · exact .refl
    · exact ((h.behind other mem).trans toBare).tail step
  · intro other mem
    rcases List.mem_cons.mp mem with rfl | mem
    · exact regular.acyclic _ reach
    · exact h.acyclic other mem

theorem settles_resolveWithin (steps : Nat) {passed : List TypeId} (h : c.Passed passed a)
    (regular : c.Regular a) (enough : c.types.length ≤ steps + passed.length) :
    c.Settles a (c.resolveWithin steps a) := by
  induction steps generalizing a passed with
  | zero =>
    rcases bare_user_or_none c a with ⟨id, shape⟩ | bare
    · have fits := (h.next regular shape).length_le
      rw [List.length_cons] at fits
      omega
    · exact (Settles.here bare).of_aliases (aliases_bare c a)
  | succ steps ih =>
    rcases bare_user_or_none c a with ⟨id, shape⟩ | bare
    · have step : c.AliasStep a.bare (c.get id).body := ⟨_, userType?_user shape, rfl⟩
      have chain := (aliases_bare c a).tail step
      have rest := ih (h.next regular shape) (regular.below (reaches_of_aliases chain))
        (by rw [List.length_cons]; omega)
      rw [resolveWithin_of_user steps shape]
      exact rest.of_aliases chain
    · rw [resolveWithin_of_none _ bare]
      exact (Settles.here bare).of_aliases (aliases_bare c a)

theorem Regular.settles (h : c.Regular a) : c.Settles a (c.resolve a) :=
  settles_resolveWithin c.types.length ⟨.nil, nofun, nofun, nofun⟩ h (Nat.le_add_right _ _)

theorem Settles.resolve_eq (h : c.Settles a r) (regular : c.Regular a) : c.resolve a = r :=
  regular.settles.unique h

theorem Regular.reaches_resolve (h : c.Regular a) : c.Reaches a (c.resolve a) :=
  h.settles.reaches

theorem Regular.resolve_of_none (h : c.Regular a) (bare : c.userType? a = none) :
    c.resolve a = a :=
  (Settles.here bare).resolve_eq h

theorem Regular.resolve_body (h : c.Regular a) (type : c.userType? a = some t) :
    c.resolve a = c.resolve t.body :=
  (Settles.body type (h.body type).settles).resolve_eq h

theorem Settles.isEmpty_eq_false (h : c.Settles a r) (filled : c.NoEmptyBody a)
    (full : a.isEmpty = false) : r.isEmpty = false := by
  induction h with
  | here => exact full
  | body type _ ih =>
    have reach := (Part.body type).reaches
    exact ih (filled.below reach) (filled _ _ Reaches.refl type)

theorem Regular.resolve_full (h : c.Regular a) (type : c.userType? a = some t) :
    (c.resolve a).isEmpty = false := by
  rw [h.resolve_body type]
  exact (h.body type).settles.isEmpty_eq_false (h.body type).filled (h.filled _ _ .refl type)

end Catalog
end Toolbridge
