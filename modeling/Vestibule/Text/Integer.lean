/-! Decimal integers in text: an optional sign and digits, nothing else, within a range. -/

namespace Vestibule.Integer

def digit? (c : Char) : Option Nat :=
  if '0' ≤ c ∧ c ≤ '9' then some (c.toNat - 48) else none

/-- The number that a string of decimal digits denotes; the empty string denotes zero. -/
def digits? (text : List Char) : Option Nat :=
  text.foldlM (fun acc c => (digit? c).map (acc * 10 + ·)) 0

/-- Digits with an optional plus sign, below `2 ^ bits`. -/
def readUnsigned (bits : Nat) (text : List Char) : Option Nat := do
  let body := match text with
    | '+' :: rest => rest
    | _ => text
  if body.isEmpty then none
  let n ← digits? body
  if n < Nat.pow 2 bits then some n else none

/-- Digits with an optional sign, in the range of a two's complement word of `bits` bits. -/
def readSigned (bits : Nat) (text : List Char) : Option Int := do
  let (negative, body) := match text with
    | '+' :: rest => (false, rest)
    | '-' :: rest => (true, rest)
    | _ => (false, text)
  if body.isEmpty then none
  let n ← digits? body
  let value : Int := if negative then -n else n
  if -Int.pow 2 (bits - 1) ≤ value ∧ value < Int.pow 2 (bits - 1) then some value else none

/-- Decimal digits, filled with zeros on the left to at least `width`. -/
def padded (width n : Nat) : List Char :=
  let ds := Nat.toDigits 10 n
  List.replicate (width - ds.length) '0' ++ ds

end Vestibule.Integer
