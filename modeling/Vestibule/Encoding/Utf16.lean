/-! UTF-16 as lists of bytes, with either byte of a unit first. -/

namespace Vestibule.Utf16

def isLead (unit : Nat) : Bool := 0xD800 ≤ unit && unit < 0xDC00

def isTrail (unit : Nat) : Bool := 0xDC00 ≤ unit && unit < 0xE000

/-- The character of a unit by itself. A surrogate stands for none. -/
def single (unit : Nat) : Char :=
  if isLead unit || isTrail unit then '\uFFFD' else Char.ofNat unit

/-- The character of two surrogates. -/
def pair (lead trail : Nat) : Char :=
  Char.ofNat (0x10000 + (lead - 0xD800) * 0x400 + (trail - 0xDC00))

/-- The whole units among some bytes. -/
def units (bigEndian : Bool) : List UInt8 → List Nat
  | a :: b :: rest =>
    (if bigEndian then a.toNat * 256 + b.toNat else b.toNat * 256 + a.toNat) ::
      units bigEndian rest
  | _ => []

/-- The text of some units, which a single byte may follow. A unit that is cut off is malformed, and
belongs to the surrogate before it. -/
def decodeUnits (cut : Bool) : List Nat → List Char
  | [] => if cut then ['\uFFFD'] else []
  | [unit] => single unit :: if cut && !isLead unit then ['\uFFFD'] else []
  | unit :: next :: rest =>
    if isLead unit && isTrail next then pair unit next :: decodeUnits cut rest
    else single unit :: decodeUnits cut (next :: rest)

/-- The text of `bytes`, where each malformed unit becomes one replacement character. -/
def decodeLossy (bigEndian : Bool) (bytes : List UInt8) : List Char :=
  decodeUnits (bytes.length % 2 = 1) (units bigEndian bytes)

end Vestibule.Utf16
