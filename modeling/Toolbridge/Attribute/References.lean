import Toolbridge.Attribute.Basic

set_option autoImplicit false

namespace Toolbridge

mutual
def Attribute.references : Attribute → List TypeId
  | ⟨none, _, _⟩ => []
  | ⟨some (.primitive _), _, _⟩ => []
  | ⟨some (.object fields), _, _⟩ => membersReferences fields
  | ⟨some (.array element), _, _⟩ => element.references
  | ⟨some (.map key value), _, _⟩ => key.references ++ value.references
  | ⟨some (.union members), _, _⟩ => membersReferences members
  | ⟨some (.user id), _, _⟩ => [id]
  | ⟨some (.named _ body), _, _⟩ => body.references
def Attribute.membersReferences : List Member → List TypeId
  | [] => []
  | ⟨_, attr⟩ :: rest => attr.references ++ membersReferences rest
end

namespace Catalog

def extendReach (c : Catalog) (listed : List TypeId) : List TypeId :=
  (listed ++ listed.flatMap fun id => (c.get id).body.references).eraseDups

def reachWithin (c : Catalog) : Nat → List TypeId → List TypeId
  | 0, listed => listed
  | rounds + 1, listed => c.reachWithin rounds (c.extendReach listed)

def reach (c : Catalog) (attrs : List Attribute) : List TypeId :=
  c.reachWithin c.types.length (attrs.flatMap (·.references)).eraseDups

end Catalog
end Toolbridge
