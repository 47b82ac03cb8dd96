import Toolbridge.Json.Value
import Toolbridge.Keyed
import Toolbridge.Number.Shortest
import Toolbridge.Yaml.Value

set_option autoImplicit false

namespace Toolbridge.Design

inductive TypeExpr where
  | name (name : String)
  | object (fields : List (String × TypeExpr)) (required : List String)
  | array (element : TypeExpr)
  | map (key value : TypeExpr)
  | union (members : List (String × TypeExpr))
  | withDefault (type : TypeExpr) (default : Option Json.Value)
deriving Inhabited

open Yaml (Value)

/-- The field of a record that a key names: by its name or by its number. An unknown one is passed
over (`some none`), and a key of another kind fails. -/
def fieldOfKey? (known : List String) : Value → Option (Option String)
  | .text name => some (if known.contains name then some name else none)
  | .natural n => some known[n]?
  | _ => none

def knownFields? (known : List String) : List (Value × Value) → Option (List (String × Value))
  | [] => some []
  | (k, v) :: rest =>
    match fieldOfKey? known k, knownFields? known rest with
    | some none, some others => some others
    | some (some name), some others =>
      if (others.lookup name).isSome then none else some ((name, v) :: others)
    | _, _ => none

def bodyFields? (known : List String) : Value → Option (List (String × Value))
  | .mapping pairs => knownFields? known pairs
  | .sequence items => if items.length ≤ known.length then some (known.zip items) else none
  | _ => none

def text? : Value → Option String
  | .text s => some s
  | _ => none

def texts? : Value → Option (List String)
  | .sequence items => items.mapM text?
  | _ => none

def numberOf (bits : UInt64) : Json.Value :=
  if Number.isFinite bits then .number (.float bits) else .null

mutual
def json? : Value → Option Json.Value
  | .null => some .null
  | .bool b => some (.bool b)
  | .natural n => some (.number (.int n))
  | .negative n => some (.number (.int n))
  | .float bits => some (numberOf bits)
  | .text s => some (.string s)
  | .sequence items => (jsonItems? items).map .array
  | .mapping pairs => (jsonFields? pairs).map Json.objectOf
def jsonItems? : List Value → Option (List Json.Value)
  | [] => some []
  | v :: rest =>
    match json? v, jsonItems? rest with
    | some j, some js => some (j :: js)
    | _, _ => none
def jsonFields? : List (Value × Value) → Option (List (String × Json.Value))
  | [] => some []
  | (k, v) :: rest =>
    match text? k, json? v, jsonFields? rest with
    | some name, some j, some fields => some ((name, j) :: fields)
    | _, _, _ => none
end

def default? : Option Value → Option (Option Json.Value)
  | none => some none
  | some .null => some none
  | some v => (json? v).map some

def namedExprs? (expr? : Value → Option TypeExpr) : Value → Option (List (String × TypeExpr))
  | .mapping pairs => do
    let entries ← pairs.mapM fun (k, v) => do
      let name ← text? k
      let e ← expr? v
      some (name, e)
    some (Keyed.ofList entries)
  | _ => none

def objectBody? (expr? : Value → Option TypeExpr) (body : Value) : Option TypeExpr := do
  let fields ← bodyFields? ["fields", "required"] body
  let members ← match fields.lookup "fields" with
    | some v => namedExprs? expr? v
    | none => some []
  let required ← match fields.lookup "required" with
    | some v => texts? v
    | none => some []
  some (.object members required)

def mapBody? (expr? : Value → Option TypeExpr) (body : Value) : Option TypeExpr := do
  let fields ← bodyFields? ["key", "value"] body
  let key ← fields.lookup "key"
  let value ← fields.lookup "value"
  some (.map (← expr? key) (← expr? value))

def shapeBody? (name : String) (pairs : List (Value × Value)) : Option Value :=
  (knownFields? [name] pairs).bind (·.lookup name)

def withDefault? (expr? : Value → Option TypeExpr) (pairs : List (Value × Value)) :
    Option TypeExpr := do
  let fields ← knownFields? ["type", "default"] pairs
  let type ← fields.lookup "type"
  let type ← expr? type
  let default ← default? (fields.lookup "default")
  some (.withDefault type default)

def shape? (expr? : Value → Option TypeExpr) (pairs : List (Value × Value)) : Option TypeExpr :=
  (((shapeBody? "object" pairs).bind (objectBody? expr?)).or
    (((shapeBody? "array" pairs).bind fun v => (expr? v).map .array).or
      (((shapeBody? "map" pairs).bind (mapBody? expr?)).or
        (((shapeBody? "union" pairs).bind fun v => (namedExprs? expr? v).map .union).or
          (withDefault? expr? pairs)))))

def exprWithin? : Nat → Value → Option TypeExpr
  | _, .text name => some (.name name)
  | depth + 1, .mapping pairs => shape? (exprWithin? depth) pairs
  | _, _ => none

/-- Values read from a document nest at most as deep as its nodes may. -/
def TypeExpr.ofValue? (depth : Nat) (v : Value) : Option TypeExpr := exprWithin? (depth + 1) v

end Toolbridge.Design
