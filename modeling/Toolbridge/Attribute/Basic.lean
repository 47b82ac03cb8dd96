import Toolbridge.Json.Value

set_option autoImplicit false

/-!
# Attributes and user types

The shapes of tool arguments, method payloads and results. An attribute is empty, a primitive, an
inline object, array, map or union, or refers to a user type. Declared user types stand in a
catalog and are referred to by their place in it, so that types may be recursive and two types may
share a name. A shape that is given a name where it is used carries its body with it.

Every function of a catalog is total: a reference outside of the catalog stands for an unnamed
empty type, and a chain of aliases is followed for as many steps as there are types.
-/
namespace Toolbridge

inductive Primitive where
  | boolean | int | int32 | int64 | uint | uint32 | uint64 | float32 | float64 | string | bytes
  | any
deriving DecidableEq, Repr, Inhabited

/-- Kinds of primitives between which values can be converted. All numbers are of one family. -/
inductive PrimitiveFamily where
  | bool | number | string | bytes | any
deriving DecidableEq, Repr, Inhabited

namespace Primitive

def all : List Primitive :=
  [boolean, int, int32, int64, uint, uint32, uint64, float32, float64, string, bytes, any]

def name : Primitive → String
  | boolean => "boolean"
  | int => "int"
  | int32 => "int32"
  | int64 => "int64"
  | uint => "uint"
  | uint32 => "uint32"
  | uint64 => "uint64"
  | float32 => "float32"
  | float64 => "float64"
  | string => "string"
  | bytes => "bytes"
  | any => "any"

def ofName? (name : String) : Option Primitive := all.find? (·.name == name)

def family : Primitive → PrimitiveFamily
  | boolean => .bool
  | int | int32 | int64 | uint | uint32 | uint64 | float32 | float64 => .number
  | string => .string
  | bytes => .bytes
  | any => .any

def goName : Primitive → String
  | boolean => "bool"
  | bytes => "[]byte"
  | p => p.name

/-- Bytes and any can be nil themselves and are never behind a pointer. -/
def isPointerEligible : Primitive → Bool
  | bytes | any => false
  | _ => true

end Primitive

def PrimitiveFamily.name : PrimitiveFamily → String
  | .bool => "bool"
  | .number => "number"
  | .string => "string"
  | .bytes => "bytes"
  | .any => "any"

/-- The Go package a user type is placed in, whoever declares it. -/
structure TypeLocation where
  path : String
  package : String
deriving DecidableEq, Repr, Inhabited

abbrev TypeId := Nat

mutual
/-- A typed node; without a type it is the empty attribute. `required` counts for objects. -/
structure Attribute where
  type : Option DataType := none
  required : List String := []
  default : Option Json.Value := none

inductive DataType where
  | primitive (primitive : Primitive)
  | object (fields : List Member)
  | array (element : Attribute)
  | map (key value : Attribute)
  | union (members : List Member)
  | user (id : TypeId)
  | named (name : String) (body : Attribute)

structure Member where
  name : String
  attr : Attribute
end

instance : Inhabited Attribute := ⟨{}⟩
instance : Inhabited DataType := ⟨.primitive .any⟩
instance : Inhabited Member := ⟨⟨"", {}⟩⟩

structure UserType where
  name : String
  /-- Path name of the service whose package declares the type. -/
  service : Option String := none
  location : Option TypeLocation := none
  body : Attribute := {}
deriving Inhabited

structure Catalog where
  types : List UserType
deriving Inhabited

inductive Kind where
  | primitive | object | array | map | union | userType
deriving DecidableEq, Repr, Inhabited

def Kind.name : Kind → String
  | .primitive => "primitive"
  | .object => "object"
  | .array => "array"
  | .map => "map"
  | .union => "union"
  | .userType => "user type"

def DataType.kind : DataType → Kind
  | .primitive _ => .primitive
  | .object _ => .object
  | .array _ => .array
  | .map _ _ => .map
  | .union _ => .union
  | .user _ | .named _ _ => .userType

def Members.find? (members : List Member) (name : String) : Option Member :=
  members.find? (·.name == name)

namespace Attribute

def ofType (type : DataType) : Attribute := { type := some type }

def isEmpty (a : Attribute) : Bool := a.type.isNone

def primitive? (a : Attribute) : Option Primitive :=
  match a.type with
  | some (.primitive p) => some p
  | _ => none

def isPrimitive (a : Attribute) : Bool := a.primitive?.isSome

/-- Without the names given to it in place. -/
def bare : Attribute → Attribute
  | ⟨some (.named _ body), _, _⟩ => body.bare
  | a => a

mutual
/-- The number of attributes in the tree, bodies of declared types not counted. -/
def nodes : Attribute → Nat
  | ⟨none, _, _⟩ => 1
  | ⟨some (.primitive _), _, _⟩ => 1
  | ⟨some (.object fields), _, _⟩ => membersNodes fields + 1
  | ⟨some (.array element), _, _⟩ => element.nodes + 1
  | ⟨some (.map key value), _, _⟩ => key.nodes + value.nodes + 1
  | ⟨some (.union members), _, _⟩ => membersNodes members + 1
  | ⟨some (.user _), _, _⟩ => 1
  | ⟨some (.named _ body), _, _⟩ => body.nodes + 1
def membersNodes : List Member → Nat
  | [] => 0
  | ⟨_, attr⟩ :: rest => attr.nodes + membersNodes rest
end

def totalNodes : List Attribute → Nat
  | [] => 0
  | a :: rest => a.nodes + totalNodes rest

end Attribute

namespace Catalog

def get (c : Catalog) (id : TypeId) : UserType := c.types.getD id default

def nodes (c : Catalog) : Nat := Attribute.totalNodes (c.types.map (·.body))

def userType? (c : Catalog) (a : Attribute) : Option UserType :=
  match a.type with
  | some (.user id) => some (c.get id)
  | some (.named name body) => some { name, body }
  | _ => none

def location? (c : Catalog) (a : Attribute) : Option TypeLocation :=
  (c.userType? a).bind (·.location)

def resolveWithin (c : Catalog) : Nat → Attribute → Attribute
  | 0, a => a.bare
  | steps + 1, a =>
    match a.bare.type with
    | some (.user id) => c.resolveWithin steps (c.get id).body
    | _ => a.bare

def resolve (c : Catalog) (a : Attribute) : Attribute := c.resolveWithin c.types.length a

def resolvedPrimitive? (c : Catalog) (a : Attribute) : Option Primitive := (c.resolve a).primitive?

def isObject (c : Catalog) (a : Attribute) : Bool :=
  match (c.resolve a).type with
  | some (.object _) => true
  | _ => false

def isRequired (c : Catalog) (a : Attribute) (field : String) : Bool :=
  (c.resolve a).required.contains field

def field? (c : Catalog) (a : Attribute) (name : String) : Option Attribute :=
  match (c.resolve a).type with
  | some (.object fields) => (Members.find? fields name).map (·.attr)
  | _ => none

/-- The field is kept behind a pointer: a primitive that may be absent and has no value of its own
for that case. A default value is one if `useDefault` is set. -/
def isPrimitivePointer (c : Catalog) (a : Attribute) (field : String) (useDefault : Bool) : Bool :=
  match c.field? a field with
  | none => false
  | some att =>
    match att.primitive? with
    | none => false
    | some p =>
      p.isPointerEligible && !c.isRequired a field && !(useDefault && att.default.isSome)

end Catalog
end Toolbridge
