import Toolbridge.Attribute.Basic

set_option autoImplicit false

/-!
# Walks over pairs of attributes

Types may be recursive, so a walk that follows user types on two sides need not end. Such a walk
runs down to a depth that it can exceed only by coming back to a pair of attributes with nothing
learned in between; then it would go on for ever and is stopped as unfinished.
-/
namespace Toolbridge

/-- Why a walk ends without a result. -/
inductive Stop (ε : Type) where
  | failed (error : ε)
  | unfinished
deriving DecidableEq, Repr

/-- At least the number of pairs of attributes that a walk from `a` and `b` can meet. -/
def Catalog.pairBound (c : Catalog) (a b : Attribute) : Nat :=
  (a.nodes + c.nodes + 1) * (b.nodes + c.nodes + 1)

/-- A pair can be met in three roles, each time with more pairs of type names known. -/
def Catalog.depthBound (c : Catalog) (a b : Attribute) : Nat :=
  3 * c.pairBound a b * (c.pairBound a b + 1) + 1

end Toolbridge
