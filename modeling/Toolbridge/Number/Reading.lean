import Toolbridge.Number.Power

set_option autoImplicit false

/-!
# Reading decimal numbers

Two ways from a decimal text to a binary64 number. `nearest` rounds the exact value once. `scaled`
keeps as many leading digits as fit into 64 bits and then multiplies or divides by a power of ten,
so that its result can be off in the last place; it fails where the number is too large.
-/
namespace Toolbridge.Number

def digitValue (c : Char) : Nat := c.toNat - 48

def natOfDigits (digits : List Char) : Nat :=
  digits.foldl (fun n c => 10 * n + digitValue c) 0

structure Numeral where
  negative : Bool
  whole : List Char
  fraction : List Char
  hasPoint : Bool
  exponent : Option Int
deriving Inhabited

/-- Beyond these exponents the result is zero or infinite whatever the digits are. -/
def Numeral.nearest (n : Numeral) : Float :=
  let digits := (n.whole ++ n.fraction).dropWhile (· = '0')
  let scale := n.exponent.getD 0 - n.fraction.length
  let size := scale + digits.length
  let magnitude : Float :=
    if digits.isEmpty then 0
    else if size < -400 then 0
    else if 400 < size then 1.0 / 0.0
    else Float.ofScientific (natOfDigits digits) (scale < 0) scale.natAbs
  if n.negative then -magnitude else magnitude

/-- Takes digits into the significand while it stays below `2 ^ 64`; counts those left over. -/
def takeDigits (significand : Nat) : List Char → Nat × List Char
  | [] => (significand, [])
  | c :: rest =>
    let next := 10 * significand + digitValue c
    if next < twoTo 64 then takeDigits next rest else (significand, c :: rest)

def scaleBy : Nat → Float → Int → Option Float
  | 0, f, _ => some f
  | fuel + 1, f, exponent =>
    if exponent.natAbs ≤ 308 then
      let power := Float.ofScientific 1 false exponent.natAbs
      if 0 ≤ exponent then
        let r := f * power
        if r.isInf then none else some r
      else some (f / power)
    else if f == 0 then some f
    else if 0 ≤ exponent then none
    else scaleBy fuel (f / Float.ofScientific 1 false 308) (exponent + 308)

def clamp (low high n : Int) : Int := if n < low then low else if high < n then high else n

/-- The exponent stays within 32 bits; where a written exponent does not fit, the number is zero
or, with digits other than zero and a positive exponent, too large. -/
def Numeral.scaled (n : Numeral) : Option Float :=
  let (significand, restWhole) := takeDigits 0 n.whole
  let (significand, restFraction) := takeDigits significand n.fraction
  let before : Int := restWhole.length
  let point := before - ((n.fraction.length - restFraction.length : Nat) : Int)
  let written := n.exponent.getD 0
  let magnitude : Option Float :=
    if twoTo 31 ≤ written.natAbs then
      if significand ≠ 0 ∧ 0 < written then none else some 0
    else
      let exponent := clamp (-twoTo 31) (twoTo 31 - 1) (point + written)
      scaleBy (exponent.natAbs / 308 + 2) (UInt64.ofNat significand).toFloat exponent
  magnitude.map fun f => if n.negative then -f else f

end Toolbridge.Number
