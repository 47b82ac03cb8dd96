import Mathlib.Data.List.Forall2
import Mathlib.Data.Option.Defs

set_option autoImplicit false

namespace Toolbridge

variable {ε α β : Type}

theorem bind_ok {m : Except ε α} {g : α → Except ε β} {y : β} (h : (m >>= g) = .ok y) :
    ∃ x, m = .ok x ∧ g x = .ok y := by
  cases m with
  | error e => cases h
  | ok x => exact ⟨x, rfl, h⟩

theorem mapM_ok {f : α → Except ε β} {xs : List α} {ys : List β} (h : xs.mapM f = .ok ys) :
    List.Forall₂ (fun x y => f x = .ok y) xs ys := by
  induction xs generalizing ys with
  | nil =>
    cases h
    exact .nil
  | cons x xs ih =>
    rw [List.mapM_cons] at h
    obtain ⟨y, first, h⟩ := bind_ok h
    obtain ⟨rest, others, h⟩ := bind_ok h
    cases h
    exact .cons first (ih others)

theorem optionRel_of_mapM {R : α → β → Prop} {f : α → Except ε β} {o : Option α} {r : Option β}
    (h : o.mapM f = .ok r) (each : ∀ x y, f x = .ok y → R x y) : Option.Rel R o r := by
  cases o with
  | none =>
    cases h
    exact .none
  | some x =>
    rw [Option.mapM_some] at h
    obtain ⟨y, made, h⟩ := bind_ok h
    cases h
    exact .some (each x y made)

end Toolbridge
