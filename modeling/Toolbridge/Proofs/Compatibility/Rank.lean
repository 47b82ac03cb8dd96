import Toolbridge.Proofs.Attribute.Vicinity
import Toolbridge.Proofs.Compatibility.Decides
import Mathlib.Data.Finset.Card
import Mathlib.Order.Lattice.Nat

set_option autoImplicit false

/-!
# Ranks of pairs that agree

Following aliases on one side of two attributes that agree leads to parts that agree at a smaller
depth. So does not only the least depth decrease from a pair to its parts while no two user types
meet, but also the number of depths below it that belong to any pair at all. This rank is at most
the number of pairs.
-/
namespace Toolbridge

namespace Compatibility

variable {c : Catalog} {S : Assumed} {a b x y r s : Attribute} {n : Nat}

noncomputable def level (c : Catalog) (S : Assumed) (p : Pair) : Nat :=
  sInf {n | AgreesWithin c S n p.1 p.2}

end Compatibility
end Toolbridge
