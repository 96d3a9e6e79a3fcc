/-! Base64 over any alphabet of 64 letters. Reading is strict: the bits past the last whole byte
must be zero, so each byte string has one text. -/

namespace Vestibule.Base64

structure Alphabet where
  letters : List Char

/-- The alphabet of PEM bodies. -/
def Alphabet.standard : Alphabet :=
  ⟨"ABCDEFGHIJKLMNOPQRSTUVWXYZabcdefghijklmnopqrstuvwxyz0123456789+/".toList⟩

/-- The alphabet that is safe in URLs and file names. -/
def Alphabet.url : Alphabet :=
  ⟨"ABCDEFGHIJKLMNOPQRSTUVWXYZabcdefghijklmnopqrstuvwxyz0123456789-_".toList⟩

/-- The alphabet of stored password hashes. -/
def Alphabet.crypt : Alphabet :=
  ⟨"./ABCDEFGHIJKLMNOPQRSTUVWXYZabcdefghijklmnopqrstuvwxyz0123456789".toList⟩

namespace Alphabet

def letter (a : Alphabet) (sextet : Nat) : Char :=
  a.letters.getD sextet 'A'

def value? (a : Alphabet) (c : Char) : Option Nat :=
  a.letters.idxOf? c

end Alphabet

/-- Text without padding. -/
def encode (a : Alphabet) : List UInt8 → List Char
  | [] => []
  | [x] =>
    let n := x.toNat * 16
    [a.letter (n / 64), a.letter (n % 64)]
  | [x, y] =>
    let n := (x.toNat * 256 + y.toNat) * 4
    [a.letter (n / 4096), a.letter (n / 64 % 64), a.letter (n % 64)]
  | x :: y :: z :: rest =>
    let n := (x.toNat * 256 + y.toNat) * 256 + z.toNat
    a.letter (n / 262144) :: a.letter (n / 4096 % 64) :: a.letter (n / 64 % 64) ::
      a.letter (n % 64) :: encode a rest

/-- Reads text without padding. -/
def decode? (a : Alphabet) : List Char → Option (List UInt8)
  | [] => some []
  | [_] => none
  | [p, q] => do
    let n := (← a.value? p) * 64 + (← a.value? q)
    if n % 16 = 0 then some [UInt8.ofNat (n / 16)] else none
  | [p, q, r] => do
    let n := ((← a.value? p) * 64 + (← a.value? q)) * 64 + (← a.value? r)
    if n % 4 = 0 then some [UInt8.ofNat (n / 1024), UInt8.ofNat (n / 4)] else none
  | p :: q :: r :: s :: rest => do
    let n := (((← a.value? p) * 64 + (← a.value? q)) * 64 + (← a.value? r)) * 64 + (← a.value? s)
    let bytes ← decode? a rest
    return UInt8.ofNat (n / 65536) :: UInt8.ofNat (n / 256) :: UInt8.ofNat n :: bytes

/-- Reads text padded with `=` to a multiple of four letters. -/
def decodePadded? (a : Alphabet) (text : List Char) : Option (List UInt8) :=
  let body := (text.reverse.dropWhile (· == '=')).reverse
  if text.length % 4 = 0 ∧ text.length < body.length + 3 then decode? a body else none

/-- Text padded with `=` to a multiple of four letters. -/
def encodePadded (a : Alphabet) (bytes : List UInt8) : List Char :=
  let body := encode a bytes
  body ++ List.replicate ((4 - body.length % 4) % 4) '='

end Vestibule.Base64
