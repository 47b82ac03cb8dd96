import Toolbridge.Proofs.Compatibility.Shape
import Toolbridge.Proofs.Conversion.Contract

set_option autoImplicit false

namespace Toolbridge

namespace Catalog

/-- What conversions take for granted of the types on either side. -/
structure WellFormed (c : Catalog) (a : Attribute) : Prop where
  acyclic : c.NoAliasCycle a
  named : c.DistinctNames a
  full : ∀ x, c.Reaches a x → x.isEmpty = false
  distinct : ∀ x members, c.Reaches a x →
    x.type = some (.object members) ∨ x.type = some (.union members) →
      (members.map (·.name)).Nodup

theorem WellFormed.regular {c : Catalog} {a : Attribute} (h : c.WellFormed a) : c.Regular a :=
  ⟨h.acyclic, h.named, fun _ _ reach type => h.full _ (reach.part (.body type))⟩

end Catalog

namespace Conversion

open Compatibility
open Go (Expr Stmt TypeCase)

section Counterparts

variable {R : Attribute → Attribute → Prop} {l r : List Member}

end Counterparts

section Level

variable {K : Contract} {k : Nat} {f : Frame} {convert strict : Task → Emit (List Stmt)} {t : Task}
  {R : Attribute → Attribute → Prop}

end Level

end Conversion
end Toolbridge
