import Toolbridge.Attribute.Basic
import Toolbridge.Go.Identifier

set_option autoImplicit false

namespace Toolbridge.Go

def qualifier (c : Catalog) (package : String) (a : Attribute) : String :=
  let p := match c.location? a with
    | some location => location.package
    | none => package
  if p.isEmpty then "" else p ++ "."

mutual
/-- The reference to the type of an attribute, with user types that are placed nowhere taken from
`package` unless that is empty. -/
def typeRef (c : Catalog) (package : String) : Attribute → String
  | ⟨none, _, _⟩ => "any"
  | ⟨some (.primitive p), _, _⟩ => p.goName
  | ⟨some (.array element), _, _⟩ => "[]" ++ typeRef c package element
  | ⟨some (.map key value), _, _⟩ =>
    "map[" ++ typeRef c package key ++ "]" ++ typeRef c package value
  | ⟨some (.object fields), required, default⟩ =>
    if fields.isEmpty then "struct\x7b\x7d"
    else
      "struct \x7b " ++ String.intercalate "; "
        (memberRefs c package ⟨some (.object fields), required, default⟩ fields) ++ " \x7d"
  | ⟨some (.union _), _, _⟩ => "any"
  | ⟨some (.user id), required, default⟩ =>
    (if c.isObject ⟨some (.user id), required, default⟩ then "*" else "")
      ++ qualifier c package ⟨some (.user id), required, default⟩
      ++ identifier true (c.get id).name
  | ⟨some (.named name body), required, default⟩ =>
    (if c.isObject ⟨some (.named name body), required, default⟩ then "*" else "")
      ++ qualifier c package ⟨some (.named name body), required, default⟩
      ++ identifier true name
def memberRefs (c : Catalog) (package : String) (owner : Attribute) :
    List Member → List String
  | [] => []
  | ⟨name, attr⟩ :: rest =>
    (identifier true name ++ " " ++ (if c.isPrimitivePointer owner name true then "*" else "")
      ++ typeRef c package attr) :: memberRefs c package owner rest
end

def isPointerRef (reference : String) : Bool := reference.toList.head? == some '*'

mutual
def typeName (c : Catalog) : Attribute → String
  | ⟨none, _, _⟩ => "Any"
  | ⟨some (.primitive p), _, _⟩ => identifier true p.name
  | ⟨some (.array element), _, _⟩ => typeName c element ++ "List"
  | ⟨some (.map key value), _, _⟩ => "MapOf" ++ typeName c key ++ typeName c value
  | ⟨some (.object _), _, _⟩ => "Struct"
  | ⟨some (.union _), _, _⟩ => "Union"
  | ⟨some (.user id), _, _⟩ => identifier true (c.get id).name
  | ⟨some (.named name _), _, _⟩ => identifier true name
end

/-- Naming on one side of a conversion. With `useDefault`, optional primitives that have a default
are plain values on this side. -/
structure Side where
  package : String
  useDefault : Bool
deriving DecidableEq, Repr, Inhabited

def Side.typeRef (c : Catalog) (s : Side) (a : Attribute) : String := Go.typeRef c s.package a

def Side.packageOf (c : Catalog) (s : Side) (a : Attribute) : String :=
  match c.userType? a with
  | none => ""
  | some t =>
    match t.location with
    | some location => location.package
    | none => s.package

end Toolbridge.Go
