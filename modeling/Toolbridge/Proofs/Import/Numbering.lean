import Toolbridge.Import.Block
import Mathlib.Data.List.Nodup
import Mathlib.Data.List.Range

set_option autoImplicit false

/-!
# Numbered names

A derived name is the first form of its base that is free: the base itself, then the base numbered
from two on. There always is one, because the forms of a base are all different and a block holds
only finitely many names.
-/
namespace Toolbridge

/-- The forms of a base in order: `foo`, `foo2`, `foo3` and so on. -/
def numbered (base : String) : Nat → String
  | 0 => base
  | n + 1 => base ++ toString (n + 2)

theorem toString_injective : Function.Injective (fun n : Nat => toString n) := by
  intro n m same
  have digits : Nat.toDigits 10 n = Nat.toDigits 10 m := by
    simpa only [Nat.toString_eq_ofList_toDigits, String.ofList_inj] using same
  have values := congrArg (fun ds => Nat.ofDigitChars 10 ds 0) digits
  simpa using values

theorem toString_digits (n : Nat) : ∀ ch ∈ (toString n).toList, ch.isDigit := by
  intro ch mem
  rw [Nat.toString_eq_ofList_toDigits, String.toList_ofList] at mem
  exact Nat.isDigit_of_mem_toDigits (by omega) (by omega) mem

theorem append_toString_ne (base : String) (n : Nat) : base ++ toString n ≠ base := by
  intro same
  have lists := congrArg String.toList same
  rw [String.toList_append, List.append_right_eq_self, Nat.toString_eq_ofList_toDigits,
    String.toList_ofList] at lists
  exact Nat.toDigits_ne_nil lists

theorem numbered_injective (base : String) : Function.Injective (numbered base) := by
  intro n m same
  match n, m with
  | 0, 0 => rfl
  | 0, m + 1 => exact absurd same.symm (append_toString_ne base (m + 2))
  | n + 1, 0 => exact absurd same (append_toString_ne base (n + 2))
  | n + 1, m + 1 =>
    have lists := congrArg String.toList same
    simp only [numbered, String.toList_append] at lists
    have equal := toString_injective (String.toList_inj.mp (List.append_cancel_left lists))
    omega

/-- The name is a form of the base that is not taken, and all forms before it are. -/
def FirstFree (Taken : String → Prop) (base name : String) : Prop :=
  ∃ n, numbered base n = name ∧ ¬ Taken name ∧ ∀ m < n, Taken (numbered base m)

theorem FirstFree.congr {Taken Taken' : String → Prop} {base name : String}
    (same : ∀ x, Taken x ↔ Taken' x) (h : FirstFree Taken base name) :
    FirstFree Taken' base name := by
  obtain ⟨n, form, free, before⟩ := h
  refine ⟨n, form, fun taken => free ((same name).mpr taken), fun m less => ?_⟩
  exact (same _).mp (before m less)

theorem FirstFree.unique {Taken : String → Prop} {base name other : String}
    (h : FirstFree Taken base name) (h' : FirstFree Taken base other) : name = other := by
  obtain ⟨n, rfl, free, before⟩ := h
  obtain ⟨m, rfl, free', before'⟩ := h'
  rcases Nat.lt_trichotomy n m with less | rfl | more
  · exact absurd (before' n less) free
  · rfl
  · exact absurd (before m more) free'

theorem firstFree_of_not {Taken : String → Prop} {base : String} (free : ¬ Taken base) :
    FirstFree Taken base base :=
  ⟨0, rfl, free, fun _ less => absurd less (Nat.not_lt_zero _)⟩

namespace ImportBlock

variable (b : ImportBlock) (base : String)

def Held (name : String) : Prop := ∃ path, b.holder? name = some path

theorem held_iff (name : String) : b.Held name ↔ ¬ (b.holder? name).isNone = true := by
  unfold Held
  cases b.holder? name <;> simp

theorem mem_holders_of_held {name : String} (held : b.Held name) :
    name ∈ b.holders.map Prod.fst := by
  obtain ⟨path, holds⟩ := held
  obtain ⟨before, after, split, -⟩ := List.lookup_eq_some_iff.mp holds
  refine List.mem_map.mpr ⟨(name, path), ?_, rfl⟩
  rw [split]
  exact List.mem_append_right _ List.mem_cons_self

theorem candidates_eq :
    b.candidates base = (List.range (b.holders.length + 1)).map (numbered base) := by
  rw [List.range_succ_eq_map, List.map_cons, List.map_map]
  rfl

/-- Not all of the candidates are held: they are one more than the names that are. -/
theorem exists_free : ∃ n < b.holders.length + 1, ¬ b.Held (numbered base n) := by
  by_contra full
  have all : ∀ n < b.holders.length + 1, b.Held (numbered base n) := by
    intro n less
    by_contra free
    exact full ⟨n, less, free⟩
  have distinct : (b.candidates base).Nodup := by
    rw [candidates_eq]
    exact List.nodup_range.map (numbered_injective base)
  have among : b.candidates base ⊆ b.holders.map Prod.fst := by
    intro name mem
    rw [candidates_eq] at mem
    obtain ⟨n, inside, rfl⟩ := List.mem_map.mp mem
    exact b.mem_holders_of_held (all n (List.mem_range.mp inside))
  have few := distinct.length_le_of_subset among
  rw [candidates_eq, List.length_map, List.length_map, List.length_range] at few
  omega

theorem freeName_firstFree : FirstFree b.Held base (b.freeName base) := by
  unfold freeName
  rw [candidates_eq, List.find?_map]
  cases found : (List.range (b.holders.length + 1)).find?
      ((fun name => (b.holder? name).isNone) ∘ numbered base) with
  | none =>
    obtain ⟨n, inside, free⟩ := b.exists_free base
    have held := List.find?_eq_none.mp found n (List.mem_range.mpr inside)
    exact absurd ((b.held_iff _).mpr held) free
  | some n =>
    obtain ⟨free, -, before⟩ := List.find?_range_eq_some.mp found
    refine ⟨n, rfl, fun held => (b.held_iff _).mp held free, fun m less => ?_⟩
    refine (b.held_iff _).mpr fun unheld => ?_
    have taken := before m less
    rw [Function.comp_apply, unheld] at taken
    cases taken

end ImportBlock
end Toolbridge
