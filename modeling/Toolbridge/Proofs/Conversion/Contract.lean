import Toolbridge.Conversion.Build
import Mathlib.Data.List.Basic

set_option autoImplicit false

/-!
# What conversion steps keep

A contract says which names helpers may get and which errors may occur. A step keeps it if, from
names that fit, it ends in names that fit or in such an error. It is compared with a second, strict
step at the same time, which must do the same. The number of names taken never decreases, and taking
one name more is what a conversion pays with for going into a helper.
-/
namespace Toolbridge.Conversion

open Go (Stmt TypeCase)

structure Contract where
  names : List String
  allowed : Stop ConversionError → Prop

namespace Contract

structure Fits (K : Contract) (s : Emitted) : Prop where
  nodup : s.names.Nodup
  known : s.names ⊆ K.names

theorem Fits.length_le {K : Contract} {s : Emitted} (h : K.Fits s) :
    s.names.length ≤ K.names.length :=
  h.nodup.length_le_of_subset h.known

/-- With at least `k` names taken, `strict` does what `m` does, and that is as agreed. -/
def Keeps (K : Contract) {α : Type} (k : Nat) (m strict : Emit α) : Prop :=
  ∀ s, K.Fits s → k ≤ s.names.length →
    strict s = m s ∧
      match m s with
      | .ok (_, s') => K.Fits s' ∧ k ≤ s'.names.length
      | .error e => K.allowed e

variable {K : Contract} {α β : Type} {k : Nat}

theorem bind_run (m : Emit α) (g : α → Emit β) (s : Emitted) :
    (m >>= g) s = match m s with
      | .ok (x, s') => g x s'
      | .error e => .error e := by
  change (m s >>= fun r => g r.1 r.2) = _
  cases m s <;> rfl

theorem bind_run_ok {m : Emit α} {g : α → Emit β} {s s' : Emitted} {y : β}
    (h : (m >>= g) s = .ok (y, s')) : ∃ x between, m s = .ok (x, between) ∧
      g x between = .ok (y, s') := by
  rw [bind_run] at h
  cases run : m s with
  | error e =>
    rw [run] at h
    cases h
  | ok r =>
    rw [run] at h
    exact ⟨r.1, r.2, rfl, h⟩

theorem Fits.take {s : Emitted} {name : String} (h : K.Fits s) (mem : name ∈ K.names)
    (new : name ∉ s.names) : K.Fits { s with names := name :: s.names } := by
  refine ⟨List.nodup_cons.mpr ⟨new, h.nodup⟩, fun other memOther => ?_⟩
  rcases List.mem_cons.mp memOther with rfl | old
  · exact mem
  · exact h.known old

section Helper

variable {f : Frame} {convert strict : Task → Emit (List Stmt)} {x y : Attribute}

def helperTask (x y : Attribute) : Task := ⟨x, y, .var "v", .var "res", true, 0, .helper⟩

theorem requireHelper_known {s : Emitted} (known : f.helperName x y ∈ s.names) :
    requireHelper f convert x y s = .ok (f.helperName x y, s) := by
  unfold requireHelper
  dsimp only
  rw [bind_run]
  change (if s.names.contains (f.helperName x y) then pure (f.helperName x y) else _ : Emit String) s
    = _
  rw [if_pos (List.contains_iff_mem.mpr known)]
  rfl

theorem requireHelper_new {s : Emitted} (new : f.helperName x y ∉ s.names) :
    requireHelper f convert x y s =
      match convert (helperTask x y) { s with names := f.helperName x y :: s.names } with
      | .ok (body, s') => .ok (f.helperName x y,
          { s' with helpers := s'.helpers ++ [⟨f.helperName x y, f.sourceRef x, f.targetRef y,
            if Go.isPointerRef (f.sourceRef x) then .returnNilIfNil "v" :: body else body⟩] })
      | .error e => .error e := by
  unfold requireHelper
  dsimp only
  rw [bind_run]
  change (if s.names.contains (f.helperName x y) then pure (f.helperName x y) else _ : Emit String) s
    = _
  rw [if_neg fun contained => new (List.contains_iff_mem.mp contained), bind_run]
  change (convert (helperTask x y) >>= _ : Emit String) { s with names := f.helperName x y :: s.names }
    = _
  rw [bind_run]
  cases convert (helperTask x y) { s with names := f.helperName x y :: s.names } <;> rfl

end Helper

end Contract
end Toolbridge.Conversion
