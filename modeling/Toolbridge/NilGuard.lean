import Toolbridge.Attribute.Basic

set_option autoImplicit false

namespace Toolbridge

/-- `source` is the attribute of the field in the method result `parent`. -/
def Catalog.needsNilGuard (c : Catalog) (parent : Option Attribute) (field : String)
    (source : Option Attribute) : Bool :=
  match parent, source with
  | some parent, some source =>
    if field.isEmpty || source.isEmpty || c.isRequired parent field then false
    else if source.isPrimitive then c.isPrimitivePointer parent field true
    else true
  | _, _ => false

end Toolbridge
