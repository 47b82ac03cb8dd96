import Toolbridge.Attribute.Walk
import Toolbridge.Go.TypeRef

set_option autoImplicit false

namespace Toolbridge

structure ConversionRequest where
  source : Attribute
  target : Attribute
  sourceVar : String
  targetVar : String
  sourceSide : Go.Side
  targetSide : Go.Side
  /-- Stands in front of the types in the names of helpers. -/
  helperPrefix : String
  /-- Objects of user types are built behind pointers. -/
  byReference : Bool
deriving Inhabited

inductive Unsupported where
  | emptyAttribute
  | mapKey
  | noCounterpart (member : String)
  | sharedType (reference : String)
  | other (text : String)
deriving DecidableEq, Repr

def Unsupported.text : Unsupported → String
  | .emptyAttribute => "empty attribute"
  | .mapKey => "map keys must be primitives"
  | .noCounterpart member => "union member " ++ member ++ " has no counterpart"
  | .sharedType reference => "union members share the Go type " ++ reference
  | .other text => text

/-- `path` is the source expression that cannot be converted. -/
inductive ConversionError where
  | mismatch (path : String) (source target : Kind)
  | unsupported (path : String) (reason : Unsupported)
deriving DecidableEq, Repr

def ConversionError.message : ConversionError → String
  | .mismatch path source target =>
    "cannot convert " ++ source.name ++ " at " ++ path ++ " into " ++ target.name
  | .unsupported path reason => "unsupported conversion at " ++ path ++ ": " ++ reason.text

/-- A function that converts its parameter `v` into its result `res`. -/
structure Helper where
  name : String
  paramType : String
  resultType : String
  body : String
deriving DecidableEq, Repr, Inhabited

structure ConversionOutput where
  body : String
  helpers : List Helper := []
deriving DecidableEq, Repr, Inhabited

/-- Answers a request, given the requests before it in order. -/
abbrev Engine :=
  List ConversionRequest → ConversionRequest → Except (Stop ConversionError) ConversionOutput

end Toolbridge
