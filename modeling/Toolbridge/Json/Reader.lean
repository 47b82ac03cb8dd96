import Toolbridge.Json.Value
import Toolbridge.Number.Reading

set_option autoImplicit false

/-!
# Reading JSON

A text is a value when it derives from the JSON grammar with nothing behind it. Integers that fit
into 64 bits, signed or not, stay integers and every other number is binary64; a negative zero is
binary64 as well. Of several fields of one name the last counts. Arrays and objects nest at most 127
deep.
-/
namespace Toolbridge.Json

def isSpace (c : Char) : Bool := c = ' ' || c = '\n' || c = '\t' || c = '\r'

def skipSpace (cs : List Char) : List Char := cs.dropWhile isSpace

def isDigit (c : Char) : Bool := '0' ≤ c && c ≤ '9'

def hexValue? (c : Char) : Option Nat :=
  if isDigit c then some (c.toNat - 48)
  else if 'a' ≤ c ∧ c ≤ 'f' then some (c.toNat - 87)
  else if 'A' ≤ c ∧ c ≤ 'F' then some (c.toNat - 55)
  else none

def hex4? : List Char → Option (Nat × List Char)
  | a :: b :: c :: d :: rest => do
    let a ← hexValue? a
    let b ← hexValue? b
    let c ← hexValue? c
    let d ← hexValue? d
    some (((a * 16 + b) * 16 + c) * 16 + d, rest)
  | _ => none

/-- The character behind `\u`; a high surrogate needs a low one behind it. -/
def unicodeEscape? (cs : List Char) : Option (Char × List Char) := do
  let (n, rest) ← hex4? cs
  if 0xDC00 ≤ n ∧ n ≤ 0xDFFF then none
  else if 0xD800 ≤ n ∧ n ≤ 0xDBFF then
    match rest with
    | '\\' :: 'u' :: rest => do
      let (low, rest) ← hex4? rest
      if 0xDC00 ≤ low ∧ low ≤ 0xDFFF then
        some (Char.ofNat (0x10000 + (n - 0xD800) * 0x400 + (low - 0xDC00)), rest)
      else none
    | _ => none
  else some (Char.ofNat n, rest)

def escape? : List Char → Option (Char × List Char)
  | '"' :: rest => some ('"', rest)
  | '\\' :: rest => some ('\\', rest)
  | '/' :: rest => some ('/', rest)
  | 'b' :: rest => some ('\x08', rest)
  | 'f' :: rest => some ('\x0c', rest)
  | 'n' :: rest => some ('\n', rest)
  | 'r' :: rest => some ('\r', rest)
  | 't' :: rest => some ('\t', rest)
  | 'u' :: rest => unicodeEscape? rest
  | _ => none

def stringTail? : Nat → List Char → Option (List Char × List Char)
  | 0, _ => none
  | fuel + 1, cs =>
    match cs with
    | [] => none
    | '"' :: rest => some ([], rest)
    | '\\' :: rest => do
      let (c, rest) ← escape? rest
      let (s, rest) ← stringTail? fuel rest
      some (c :: s, rest)
    | c :: rest =>
      if c.toNat < 0x20 then none
      else do
        let (s, rest) ← stringTail? fuel rest
        some (c :: s, rest)

def exponent? (cs : List Char) : Option (Int × List Char) :=
  let (negative, cs) :=
    match cs with
    | '+' :: rest => (false, rest)
    | '-' :: rest => (true, rest)
    | _ => (false, cs)
  let digits := cs.takeWhile isDigit
  if digits.isEmpty then none
  else
    let n : Int := Number.natOfDigits digits
    some (if negative then -n else n, cs.dropWhile isDigit)

def numeral? (negative : Bool) (cs : List Char) : Option (Number.Numeral × List Char) := do
  let whole := cs.takeWhile isDigit
  let rest := cs.dropWhile isDigit
  if whole.isEmpty || (whole.head? == some '0' && whole.length ≠ 1) then none
  else
    let (fraction, hasPoint, rest) ← match rest with
      | '.' :: rest =>
        if (rest.takeWhile isDigit).isEmpty then none
        else some (rest.takeWhile isDigit, true, rest.dropWhile isDigit)
      | _ => some ([], false, rest)
    let (exponent, rest) ← match rest with
      | c :: tail =>
        if c = 'e' ∨ c = 'E' then (exponent? tail).map fun (e, r) => (some e, r)
        else some (none, c :: tail)
      | [] => some (none, [])
    some (⟨negative, whole, fraction, hasPoint, exponent⟩, rest)

def numberOf? (n : Number.Numeral) : Option Number :=
  let size := Number.natOfDigits n.whole
  if n.hasPoint = false ∧ n.exponent = none
      ∧ (if n.negative then 0 < size ∧ size ≤ Number.twoTo 63 else size < Number.twoTo 64) then
    some (.int (if n.negative then -(size : Int) else size))
  else n.scaled.map fun f => .float f.toBits

def literal? (word : String) (value : Value) (cs : List Char) : Option (Value × List Char) :=
  if word.toList.isPrefixOf cs then some (value, cs.drop word.length) else none

def itemsTail? (item? : List Char → Option (Value × List Char)) :
    Nat → Bool → List Char → Option (List Value × List Char)
  | 0, _, _ => none
  | fuel + 1, first, cs =>
    match skipSpace cs, first with
    | ']' :: rest, _ => some ([], rest)
    | cs, true => do
      let (v, rest) ← item? cs
      let (vs, rest) ← itemsTail? item? fuel false rest
      some (v :: vs, rest)
    | ',' :: cs, false => do
      let (v, rest) ← item? (skipSpace cs)
      let (vs, rest) ← itemsTail? item? fuel false rest
      some (v :: vs, rest)
    | _, false => none

def field? (item? : List Char → Option (Value × List Char)) :
    List Char → Option ((String × Value) × List Char)
  | '"' :: rest => do
    let (name, rest) ← stringTail? (rest.length + 1) rest
    match skipSpace rest with
    | ':' :: rest => do
      let (v, rest) ← item? (skipSpace rest)
      some ((String.ofList name, v), rest)
    | _ => none
  | _ => none

def fieldsTail? (item? : List Char → Option (Value × List Char)) :
    Nat → Bool → List Char → Option (List (String × Value) × List Char)
  | 0, _, _ => none
  | fuel + 1, first, cs =>
    match skipSpace cs, first with
    | '\x7d' :: rest, _ => some ([], rest)
    | cs, true => do
      let (f, rest) ← field? item? cs
      let (fs, rest) ← fieldsTail? item? fuel false rest
      some (f :: fs, rest)
    | ',' :: cs, false => do
      let (f, rest) ← field? item? (skipSpace cs)
      let (fs, rest) ← fieldsTail? item? fuel false rest
      some (f :: fs, rest)
    | _, false => none

def value? : Nat → List Char → Option (Value × List Char)
  | depth, cs =>
    match cs with
    | 'n' :: _ => literal? "null" .null cs
    | 't' :: _ => literal? "true" (.bool true) cs
    | 'f' :: _ => literal? "false" (.bool false) cs
    | '"' :: rest => do
      let (s, rest) ← stringTail? (rest.length + 1) rest
      some (.string (String.ofList s), rest)
    | '-' :: rest => do
      let (n, rest) ← numeral? true rest
      let n ← numberOf? n
      some (.number n, rest)
    | '[' :: rest =>
      match depth with
      | 0 => none
      | depth + 1 => do
        let (vs, rest) ← itemsTail? (value? depth) (rest.length + 1) true rest
        some (.array vs, rest)
    | '\x7b' :: rest =>
      match depth with
      | 0 => none
      | depth + 1 => do
        let (fs, rest) ← fieldsTail? (value? depth) (rest.length + 1) true rest
        some (objectOf fs, rest)
    | _ => do
      let (n, rest) ← numeral? false cs
      let n ← numberOf? n
      some (.number n, rest)

def Value.read? (text : String) : Option Value := do
  let (v, rest) ← value? 127 (skipSpace text.toList)
  if (skipSpace rest).isEmpty then some v else none

end Toolbridge.Json
