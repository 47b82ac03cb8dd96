import Toolbridge.Number.Reading

set_option autoImplicit false

/-!
# Typed YAML values

What a plain scalar stands for: nothing, a truth value, an integer, a decimal number, or else its own
text. Integers may be hexadecimal, octal or binary; a leading zero before further digits makes a
text. Integers of more than 64 bits have no value, unless they exceed 128 bits and are decimal
numbers then.
-/
namespace Toolbridge.Yaml

inductive Value where
  | null
  | bool (value : Bool)
  | natural (value : Nat)
  | negative (value : Int)
  | float (bits : UInt64)
  | text (value : String)
  | sequence (items : List Value)
  | mapping (pairs : List (Value × Value))
deriving Inhabited

def nullWords : List String := ["null", "Null", "NULL", "~"]

def isNull (text : String) : Bool := nullWords.contains text

def bool? (text : String) : Option Bool :=
  if ["true", "True", "TRUE"].contains text then some true
  else if ["false", "False", "FALSE"].contains text then some false
  else none

def digitValue? (radix : Nat) (c : Char) : Option Nat :=
  let value? : Option Nat :=
    if '0' ≤ c ∧ c ≤ '9' then some (c.toNat - 48)
    else if 'a' ≤ c ∧ c ≤ 'f' then some (c.toNat - 87)
    else if 'A' ≤ c ∧ c ≤ 'F' then some (c.toNat - 55)
    else none
  value?.filter (· < radix)

def digitsValue? (radix : Nat) (n : Nat) : List Char → Option Nat
  | [] => some n
  | c :: rest => (digitValue? radix c).bind fun d => digitsValue? radix (radix * n + d) rest

def radixValue? (radix : Nat) (digits : List Char) : Option Nat :=
  if digits.isEmpty then none else digitsValue? radix 0 digits

def hasLeadingZero : List Char → Bool
  | '0' :: c :: rest => (c :: rest).all Char.isDigit
  | _ => false

def magnitude? (digits : List Char) : Option Nat :=
  match digits with
  | '0' :: 'x' :: rest => radixValue? 16 rest
  | '0' :: 'o' :: rest => radixValue? 8 rest
  | '0' :: 'b' :: rest => radixValue? 2 rest
  | _ => if hasLeadingZero digits then none else radixValue? 10 digits

inductive IntegerReading where
  | value (v : Value)
  | tooLarge
  | other

def integer (text : List Char) : IntegerReading :=
  match text with
  | '-' :: digits =>
    match magnitude? digits with
    | some n =>
      if n ≤ Number.twoTo 63 then .value (.negative (-(n : Int)))
      else if n ≤ Number.twoTo 127 then .tooLarge
      else .other
    | none => .other
  | _ =>
    let digits := match text with
      | '+' :: digits => digits
      | _ => text
    match magnitude? digits with
    | some n =>
      if n < Number.twoTo 64 then .value (.natural n)
      else if n < Number.twoTo 128 then .tooLarge
      else .other
    | none => .other

def numeral? (negative : Bool) (text : List Char) : Option Number.Numeral :=
  let whole := text.takeWhile Char.isDigit
  let rest := text.dropWhile Char.isDigit
  let (hasPoint, fraction, rest) : Bool × List Char × List Char :=
    match rest with
    | '.' :: rest => (true, rest.takeWhile Char.isDigit, rest.dropWhile Char.isDigit)
    | _ => (false, [], rest)
  if whole.isEmpty && fraction.isEmpty then none
  else
    match rest with
    | [] => some ⟨negative, whole, fraction, hasPoint, none⟩
    | e :: rest =>
      if e = 'e' ∨ e = 'E' then
        let (minus, digits) : Bool × List Char := match rest with
          | '-' :: digits => (true, digits)
          | '+' :: digits => (false, digits)
          | digits => (false, digits)
        if digits.isEmpty || !digits.all Char.isDigit then none
        else
          let size : Int := Number.natOfDigits digits
          some ⟨negative, whole, fraction, hasPoint, some (if minus then -size else size)⟩
      else none

def finite? (negative : Bool) (text : List Char) : Option Float :=
  (numeral? negative text).bind fun n =>
    let f := n.nearest
    if f.isInf then none else some f

def float? (text : String) : Option Float :=
  if [".nan", ".NaN", ".NAN"].contains text then some (0.0 / 0.0)
  else if ["-.inf", "-.Inf", "-.INF"].contains text then some (-1.0 / 0.0)
  else if [".inf", ".Inf", ".INF", "+.inf", "+.Inf", "+.INF"].contains text then some (1.0 / 0.0)
  else
    match text.toList with
    | '+' :: digits => finite? false digits
    | '-' :: digits => finite? true digits
    | digits => finite? false digits

def unsignedPart : List Char → List Char
  | '-' :: digits => digits
  | '+' :: digits => digits
  | digits => digits

def Value.ofPlain? (text : String) : Option Value :=
  if text.isEmpty || isNull text then some .null
  else
    match bool? text with
    | some b => some (.bool b)
    | none =>
      match integer text.toList with
      | .value v => some v
      | .tooLarge => none
      | .other =>
        if hasLeadingZero (unsignedPart text.toList) then some (.text text)
        else
          match float? text with
          | some f => some (.float f.toBits)
          | none => some (.text text)

/-- The value of a scalar. Tags of the core schema ask for a type, other global tags make a text, and
a local tag has no value. -/
def Value.ofScalar? (text : String) (plain : Bool) : Option String → Option Value
  | none => if plain then Value.ofPlain? text else some (.text text)
  | some tag =>
    if tag.toList.head? == some '!' then none
    else if tag = "tag:yaml.org,2002:bool" then (bool? text).map .bool
    else if tag = "tag:yaml.org,2002:int" then
      match integer text.toList with
      | .value v => some v
      | _ => none
    else if tag = "tag:yaml.org,2002:float" then (float? text).map fun f => .float f.toBits
    else if tag = "tag:yaml.org,2002:null" then if isNull text then some .null else none
    else some (.text text)

end Toolbridge.Yaml
