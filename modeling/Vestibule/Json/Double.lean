import Vestibule.Text.Integer

/-! Doubles in text. Reading scales the leading digits that fit 64 bits by a power of ten in double
arithmetic. Writing takes the fewest digits that denote the same double. -/

namespace Vestibule.Double

/-- Digits gathered so far: their number, and how many more powers of ten it stands for. -/
structure Scaled where
  significand : Nat
  exponent : Int
  deriving Repr

/-- Digits before the point. Once one does not fit, it and all after it only raise the exponent. -/
def Scaled.integral : List Nat → Scaled → Scaled
  | [], s => s
  | d :: ds, s =>
    let n := s.significand * 10 + d
    if s.exponent = 0 ∧ n < Nat.pow 2 64 then integral ds ⟨n, 0⟩
    else integral ds ⟨s.significand, s.exponent + 1⟩

/-- Digits after the point. The first that does not fit ends the gathering. -/
def Scaled.fractional : List Nat → Scaled → Scaled
  | [], s => s
  | d :: ds, s =>
    let n := s.significand * 10 + d
    if n < Nat.pow 2 64 then fractional ds ⟨n, s.exponent - 1⟩ else s

def tenPow (k : Nat) : Float := Float.ofScientific 1 false k

/-- `value * 10 ^ exponent`, by quotients of `1e308` while the exponent is below the table's end.
`none` when the result is infinite. -/
def scale (value : Float) (exponent : Int) : Nat → Option Float
  | 0 => some value
  | fuel + 1 =>
    if exponent.natAbs ≤ 308 then
      if 0 ≤ exponent then
        let f := value * tenPow exponent.natAbs
        if f.isInf then none else some f
      else some (value / tenPow exponent.natAbs)
    else if value == 0 then some value
    else if 0 ≤ exponent then none
    else scale (value / tenPow 308) (exponent + 308) fuel

def Scaled.toDouble? (s : Scaled) (negative : Bool) : Option UInt64 :=
  let start := (UInt64.ofNat s.significand).toFloat
  (scale start s.exponent (s.exponent.natAbs / 308 + 2)).map fun f =>
    (if negative then -f else f).toBits

/-- A finite double as a natural number and a power of two, without its sign. -/
def parts (bits : UInt64) : Nat × Int :=
  let fraction : Nat := bits.toNat % Nat.pow 2 52
  let exponent : Nat := bits.toNat / Nat.pow 2 52 % Nat.pow 2 11
  if exponent = 0 then (fraction, -1074) else (fraction + Nat.pow 2 52, (exponent : Int) - 1075)

/-- A quotient rounded to the nearest natural number, ties to even. -/
def roundDiv (num den : Nat) : Nat :=
  let q := num / den
  let r := num % den
  if 2 * r < den ∨ (2 * r = den ∧ q % 2 = 0) then q else q + 1

/-- `num / den * 10 ^ shift`, rounded. -/
def decimal (num den : Nat) (shift : Int) : Nat :=
  if 0 ≤ shift then roundDiv (num * Nat.pow 10 shift.toNat) den
  else roundDiv num (den * Nat.pow 10 (-shift).toNat)

/-- The exponent of ten of the leading digit of `num / den`. -/
def magnitude (num den : Nat) : Int :=
  let guess : Int := ((Nat.toDigits 10 num).length : Int) - ((Nat.toDigits 10 den).length : Int)
  let reaches :=
    if 0 ≤ guess then den * Nat.pow 10 guess.toNat ≤ num
    else den ≤ num * Nat.pow 10 (-guess).toNat
  if reaches then guess else guess - 1

/-- The first count of digits, from `17 - fuel`, at which rounding denotes the double again. -/
def shortest (bits : UInt64) (num den : Nat) (m : Int) : Nat → Nat × Int
  | 0 => (decimal num den (16 - m), m - 16)
  | fuel + 1 =>
    let places : Int := 16 - fuel
    let d := decimal num den (places - m)
    let e := m - places
    let back := if 0 ≤ e then Float.ofScientific d false e.toNat
      else Float.ofScientific d true (-e).toNat
    if back.toBits = bits then (d, e) else shortest bits num den m fuel

def dropZeros (d : Nat) (e : Int) : Nat → Nat × Int
  | 0 => (d, e)
  | fuel + 1 => if d % 10 = 0 ∧ d ≠ 0 then dropZeros (d / 10) (e + 1) fuel else (d, e)

/-- Positional between 1e-5 and 1e16, always with a point; else with an exponent. -/
def layout (d : Nat) (e : Int) : List Char :=
  let ds := Nat.toDigits 10 d
  let point := (ds.length : Int) + e
  if 0 ≤ e ∧ point ≤ 16 then ds ++ List.replicate e.toNat '0' ++ ".0".toList
  else if 0 < point ∧ point ≤ 16 then ds.take point.toNat ++ '.' :: ds.drop point.toNat
  else if -5 < point ∧ point ≤ 0 then
    "0.".toList ++ List.replicate (-point).toNat '0' ++ ds
  else
    let tail := if ds.length = 1 then [] else '.' :: ds.drop 1
    ds.take 1 ++ tail ++ 'e' :: (toString (point - 1)).toList

def write (bits : UInt64) : List Char :=
  let sign := if bits.toNat / Nat.pow 2 63 = 1 then ['-'] else []
  let (m, q) := parts bits
  if m = 0 then sign ++ "0.0".toList
  else
    let num := if 0 ≤ q then m * Nat.pow 2 q.toNat else m
    let den := if 0 ≤ q then 1 else Nat.pow 2 (-q).toNat
    let (d, e) := shortest (UInt64.ofNat (bits.toNat % Nat.pow 2 63)) num den (magnitude num den) 17
    let (d, e) := dropZeros d e 17
    sign ++ layout d e

end Vestibule.Double
