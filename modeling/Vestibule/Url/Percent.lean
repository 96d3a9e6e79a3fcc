import Vestibule.Encoding.Hex
import Vestibule.Encoding.Utf8

/-! Percent encoding, and the pairs of a web form. Each part of a URL has its own set of characters
that must be encoded; a set here grows along the parts. -/

namespace Vestibule.Percent

abbrev CharSet := Char → Bool

def CharSet.with (s : CharSet) (more : List Char) : CharSet := fun c => s c || more.contains c

def controls : CharSet := fun c => c.toNat < 0x20 || 0x7E < c.toNat

def fragment : CharSet := CharSet.with controls [' ', '"', '<', '>', Char.ofNat 0x60]

def query : CharSet := CharSet.with controls [' ', '"', '#', '<', '>']

def specialQuery : CharSet := CharSet.with query ['\'']

def path : CharSet := CharSet.with fragment ['#', '?', '\x7b', '\x7d']

def userInfo : CharSet :=
  CharSet.with path ['/', ':', ';', '=', '@', '[', '\\', ']', '^', '|']

def encodeByte (b : UInt8) : List Char :=
  ['%', Hex.upperDigit (b.toNat / 16), Hex.upperDigit (b.toNat % 16)]

/-- Characters of the set become their bytes, all else stands for itself. -/
def encode (s : CharSet) (text : List Char) : List Char :=
  text.flatMap fun c => if s c then (String.utf8EncodeChar c).flatMap encodeByte else [c]

/-- The bytes of a text with the percent-encoded ones decoded. A percent sign without two digits
stands for itself. -/
def decode : List Char → List UInt8
  | [] => []
  | '%' :: a :: b :: rest =>
    match Hex.value? a, Hex.value? b with
    | some high, some low => UInt8.ofNat (high * 16 + low) :: decode rest
    | _, _ => 0x25 :: decode (a :: b :: rest)
  | c :: rest => String.utf8EncodeChar c ++ decode rest

/-- What stands for itself in a form. -/
def isFormPlain (c : Char) : Bool :=
  ('a' ≤ c && c ≤ 'z') || ('A' ≤ c && c ≤ 'Z') || ('0' ≤ c && c ≤ '9') ||
    ['*', '-', '.', '_'].contains c

def formText (text : String) : List Char :=
  text.toList.flatMap fun c =>
    if c = ' ' then ['+']
    else if isFormPlain c then [c]
    else (String.utf8EncodeChar c).flatMap encodeByte

def formPair (pair : String × String) : List Char :=
  formText pair.1 ++ '=' :: formText pair.2

/-- The text of a form. -/
def form (pairs : List (String × String)) : List Char :=
  ['&'].intercalate (pairs.map formPair)

end Vestibule.Percent
