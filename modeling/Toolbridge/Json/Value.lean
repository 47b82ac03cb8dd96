set_option autoImplicit false

namespace Toolbridge.Json

inductive Number where
  | int (value : Int)
  | float (bits : UInt64)
deriving DecidableEq, Repr, Inhabited

inductive Value where
  | null
  | bool (value : Bool)
  | number (value : Number)
  | string (value : String)
  | array (items : List Value)
  | object (fields : List (String × Value))
deriving Repr, Inhabited

def insertField {α : Type} (name : String) (value : α) : List (String × α) → List (String × α)
  | [] => [(name, value)]
  | (other, old) :: rest =>
    if name < other then (name, value) :: (other, old) :: rest
    else if name = other then (name, value) :: rest
    else (other, old) :: insertField name value rest

def objectOf (fields : List (String × Value)) : Value :=
  .object (fields.foldl (fun acc f => insertField f.1 f.2 acc) [])

end Toolbridge.Json
