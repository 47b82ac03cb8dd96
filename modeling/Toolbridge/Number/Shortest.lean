import Toolbridge.Number.Power

set_option autoImplicit false

/-!
# Shortest decimal digits of a binary64 number

A positive finite number is `m · 2 ^ q`. The reals nearer to it than to its neighbours form an
interval whose ends belong to it exactly when `m` is even. On the grids of `1, 2, …, 17` significant
digits the first one with a point in that interval gives the digits; of two points the nearer one is
taken, and of two equally near ones the even one.
-/
namespace Toolbridge.Number

/-- The parts of a finite binary64 number, its value being `mantissa * 2 ^ exponent`. `narrow` tells
that the gap below it is half the gap above it. -/
structure Binary where
  negative : Bool
  mantissa : Nat
  exponent : Int
  narrow : Bool

def Binary.ofBits (bits : UInt64) : Binary :=
  let n := bits.toNat
  let fraction : Nat := n % twoTo 52
  let biased : Nat := n / twoTo 52 % twoTo 11
  { negative := n / twoTo 63 = 1
    mantissa := if biased = 0 then fraction else twoTo 52 + fraction
    exponent := if biased = 0 then -1074 else (biased : Int) - 1075
    narrow := fraction = 0 && 1 < biased }

def isFinite (bits : UInt64) : Bool :=
  bits.toNat / twoTo 52 % twoTo 11 ≠ 2047

/-- Both sides of a comparison between `c * 10 ^ p` and `x * 2 ^ (q - 2)`, as factors of `c` and
`x`. -/
def gridFactors (p q : Int) : Nat × Nat :=
  (tenTo p.toNat * twoTo (2 - q).toNat, tenTo (-p).toNat * twoTo (q - 2).toNat)

/-- The grid point with `k` significant digits, `d` being the decimal exponent, that reads back. -/
def Binary.onGrid? (b : Binary) (d : Int) (k : Nat) : Option (Nat × Int) :=
  let p := d - k + 1
  let (atGrid, atValue) := gridFactors p b.exponent
  let value := 4 * b.mantissa * atValue
  let low := (4 * b.mantissa - if b.narrow then 1 else 2) * atValue
  let high := (4 * b.mantissa + 2) * atValue
  let inside := fun c : Nat =>
    if b.mantissa % 2 = 0 then low ≤ c * atGrid && c * atGrid ≤ high
    else low < c * atGrid && c * atGrid < high
  let c := value / atGrid
  match inside c, inside (c + 1) with
  | true, true =>
    let twice := 2 * value
    let middle := (2 * c + 1) * atGrid
    if twice < middle then some (c, p)
    else if middle < twice then some (c + 1, p)
    else if c % 2 = 0 then some (c, p) else some (c + 1, p)
  | true, false => some (c, p)
  | false, true => some (c + 1, p)
  | false, false => none

def digitCount (n : Nat) : Nat :=
  if n < 10 then 1 else digitCount (n / 10) + 1

def tenfoldSteps (den : Nat) : Nat → Nat → Nat
  | 0, _ => 0
  | fuel + 1, num => if den ≤ num then 0 else tenfoldSteps den fuel (num * 10) + 1

def Binary.decimalExponent (b : Binary) : Int :=
  let num := b.mantissa * twoTo b.exponent.toNat
  let den := twoTo (-b.exponent).toNat
  if den ≤ num then (digitCount (num / den) : Int) - 1
  else -(tenfoldSteps den 400 num : Int)

def trimZeros : Nat → Nat × Int → Nat × Int
  | 0, r => r
  | fuel + 1, (c, p) =>
    if c % 10 = 0 ∧ c ≠ 0 then trimZeros fuel (c / 10, p + 1) else (c, p)

/-- The digits `c` and the exponent `p` of the shortest decimal `c * 10 ^ p` that reads back. -/
def Binary.shortest (b : Binary) : Nat × Int :=
  if b.mantissa = 0 then (0, 0)
  else
    match (List.range 17).findSome? fun i => b.onGrid? b.decimalExponent (i + 1) with
    | some r => trimZeros 20 r
    | none => (0, 0)

/-- How a decimal is laid out: positional while the point stands within `low` and `high` places of
the first digit, otherwise with an exponent. -/
structure DecimalFormat where
  low : Int
  high : Int

def plainFormat : DecimalFormat := ⟨-5, 16⟩

def zeros (n : Nat) : String := String.ofList (List.replicate n '0')

def DecimalFormat.text (f : DecimalFormat) (c : Nat) (p : Int) : String :=
  let digits := toString c
  let count : Int := digits.length
  let point := count + p
  if 0 ≤ p ∧ point ≤ f.high then digits ++ zeros p.toNat ++ ".0"
  else if 0 < point ∧ point ≤ f.high then
    String.ofList (digits.toList.take point.toNat) ++ "."
      ++ String.ofList (digits.toList.drop point.toNat)
  else if f.low < point ∧ point ≤ 0 then "0." ++ zeros (-point).toNat ++ digits
  else
    let e := point - 1
    let tail := String.ofList (digits.toList.drop 1)
    String.ofList (digits.toList.take 1) ++ (if tail.isEmpty then "" else "." ++ tail)
      ++ "e" ++ (if e < 0 then "-" else "+") ++ toString e.natAbs

def floatText (bits : UInt64) : String :=
  let b := Binary.ofBits bits
  let (c, p) := b.shortest
  (if b.negative then "-" else "") ++
    (if b.mantissa = 0 then "0.0" else plainFormat.text c p)

end Toolbridge.Number
