import Vestibule.Digest.Words
import Vestibule.Encoding.Utf8
import Vestibule.Text.Chars
import Vestibule.Text.Integer
import Vestibule.Time.Calendar

/-! Values with a tag and a length, as key files and certificates nest them. This reading finds out
what a file holds. It is generous with lengths, which may take more bytes than they need, and with
tags, of which only the number counts; but it refuses a file with a malformed value anywhere. -/

namespace Vestibule

inductive Ber where
  | sequence (items : List Ber)
  | bitString (bytes : List UInt8)
  | octetString (bytes : List UInt8)
  | objectId (numbers : List Nat)
  | other

namespace Ber

/-- A number in base 128, whose last byte is below 128. -/
def base128? (acc : Nat) : List UInt8 → Option (Nat × List UInt8)
  | [] => none
  | b :: rest =>
    let n := acc * 128 + b.toNat % 128
    if b < 0x80 then some (n, rest) else base128? n rest

/-- Whether a tag is one of the universal ones, and its number. -/
def tag? : List UInt8 → Option (Bool × Nat × List UInt8)
  | [] => none
  | b :: rest =>
    let universal := b.toNat / 64 == 0
    let n := b.toNat % 32
    if n = 31 then (base128? 0 rest).map fun (n, rest) => (universal, n, rest)
    else some (universal, n, rest)

/-- A length: one byte below 128, or the number of the bytes that hold it. -/
def length? : List UInt8 → Option (Nat × List UInt8)
  | [] => none
  | b :: rest =>
    if b < 0x80 then some (b.toNat, rest)
    else
      let count := b.toNat - 0x80
      if 8 < count ∨ rest.length < count then none
      else some (Words.toNat (rest.take count), rest.drop count)

/-- The numbers of an object identifier after the first byte, which holds two of them. -/
def arcs? : Nat → List UInt8 → Option (List Nat)
  | _, [] => some []
  | 0, _ => none
  | fuel + 1, bytes => do
    let (n, rest) ← base128? 0 bytes
    return n :: (← arcs? fuel rest)

def objectId? : List UInt8 → Option (List Nat)
  | [] => none
  | b :: rest => do
    let n := b.toNat
    let lead := if n < 40 then [0, n] else if n < 80 then [1, n - 40] else [2, n - 80]
    return lead ++ (← arcs? rest.length rest)

def isPrintable (b : UInt8) : Bool :=
  let c := Char.ofNat b.toNat
  Text.isAsciiLetter c || Text.isAsciiDigit c || " '()+,-./:=?".toList.contains c

/-- Two digits each of month, day, hour, minute and second, of a day and a time that there is. -/
def isTimeOf (year : Int) (digits : List Char) : Bool :=
  let pair := fun (k : Nat) => (Integer.digits? ((digits.drop k).take 2)).getD 100
  digits.length == 10 && digits.all Text.isAsciiDigit &&
    (Date.ofCivil? year (pair 0) (pair 2)).isSome && pair 4 < 24 && pair 6 < 60 && pair 8 < 60

/-- A time with a year of two digits, from 1950 to 2049, in Greenwich. -/
def isShortTime (text : List Char) : Bool :=
  match Integer.digits? (text.take 2) with
  | some y =>
    text.length == 13 && text.getLast? == some 'Z' &&
      isTimeOf (if 50 ≤ y then 1900 + y else 2000 + y) ((text.drop 2).take 10)
  | none => false

/-- A time with a year of four digits, which may have a sign, and perhaps a fraction of a second. A
point that is missing goes before the fifteenth character. -/
def isLongTime (text : List Char) : Bool :=
  let text := if text.contains '.' then text else text.take 14 ++ '.' :: text.drop 14
  let text := text.dropLast ++ List.replicate (25 - text.length) '0' ++ text.drop (text.length - 1)
  let (negative, text) := match text with
    | '+' :: rest => (false, rest)
    | '-' :: rest => (true, rest)
    | _ => (false, text)
  match Integer.digits? (text.take 4), text.drop 14 with
  | some y, '.' :: fraction =>
    let digits := fraction.takeWhile Text.isAsciiDigit
    !digits.isEmpty && fraction.drop digits.length == ['Z'] &&
      isTimeOf (if negative then -y else y) ((text.drop 4).take 10)
  | _, _ => false

def ifValid (valid : Bool) (value : Ber) : Option Ber := if valid then some value else none

/-- A value of a universal tag that holds no other values. -/
def leaf? (tag : Nat) (content : List UInt8) : Option Ber :=
  let chars := content.map fun b => Char.ofNat b.toNat
  match tag with
  | 1 => ifValid (content.length == 1) other
  | 3 =>
    match content with
    | [] => some (bitString [])
    | unused :: bytes => ifValid (unused.toNat ≤ bytes.length * 8) (bitString bytes)
  | 4 => some (octetString content)
  | 6 => (objectId? content).map objectId
  | 12 | 20 | 28 | 30 => ifValid (Utf8.decode? content).isSome other
  | 19 => ifValid (content.all isPrintable) other
  | 23 => ifValid (isShortTime chars) other
  | 24 => ifValid (15 ≤ content.length && content.all (· < 0x80) && isLongTime chars) other
  | _ => some other

mutual

/-- One value or more. -/
def items? : Nat → List UInt8 → Option (List Ber)
  | 0, _ => none
  | fuel + 1, bytes => do
    let (universal, tag, rest) ← tag? bytes
    let (size, rest) ← length? rest
    if rest.length < size then none
    let item ← if universal then item? fuel tag (rest.take size) else some other
    let rest := rest.drop size
    if rest.isEmpty then return [item] else return item :: (← items? fuel rest)

/-- The value of a universal tag. Sequences and sets hold one value at least. -/
def item? : Nat → Nat → List UInt8 → Option Ber
  | 0, _, _ => none
  | fuel + 1, tag, content =>
    match tag with
    | 16 => (items? fuel content).map sequence
    | 17 => (items? fuel content).map fun _ => other
    | _ => leaf? tag content

end

def read? (bytes : List UInt8) : Option (List Ber) := items? (2 * bytes.length + 2) bytes

mutual

/-- The first value that `pick` accepts, in order, sequences looked into. -/
def first? {α : Type} (pick : Ber → Option α) : Ber → Option α
  | .sequence items => firstOf? pick items
  | d => pick d

def firstOf? {α : Type} (pick : Ber → Option α) : List Ber → Option α
  | [] => none
  | d :: items => (first? pick d).orElse fun _ => firstOf? pick items

end

/-- The content of the first bit string or octet string. -/
def firstString? (items : List Ber) : Option (List UInt8) :=
  firstOf? (fun d => match d with
    | .bitString bytes | .octetString bytes => some bytes
    | _ => none) items

end Ber

end Vestibule
