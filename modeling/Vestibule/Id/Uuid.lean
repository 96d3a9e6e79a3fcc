import Vestibule.Encoding.Hex
import Vestibule.Encoding.Utf8

/-! 128-bit identifiers and their texts. The layout of version 7 puts a time in milliseconds first,
so identifiers sort by the time they were made. -/

namespace Vestibule

structure Uuid where
  bits : BitVec 128
  deriving DecidableEq, Repr, Inhabited

namespace Uuid

def nil : Uuid := ⟨0⟩

def ofNat (n : Nat) : Uuid := ⟨BitVec.ofNat 128 n⟩

def toNat (u : Uuid) : Nat := u.bits.toNat

/-- The 32 hexadecimal digits. -/
def simple (u : Uuid) : List Char := Hex.ofNat 32 u.toNat

/-- The digits in groups of 8, 4, 4, 4 and 12. -/
def hyphenated (u : Uuid) : List Char :=
  let ds := u.simple
  ds.take 8 ++ '-' :: (ds.drop 8).take 4 ++ '-' :: (ds.drop 12).take 4 ++
    '-' :: (ds.drop 16).take 4 ++ '-' :: ds.drop 20

instance : ToString Uuid := ⟨fun u => String.ofList u.hyphenated⟩

def readSimple? (text : List Char) : Option Uuid :=
  if text.length = 32 then (Hex.toNat? text).map ofNat else none

def readHyphenated? (text : List Char) : Option Uuid :=
  if text.length = 36 ∧ [8, 13, 18, 23].all (fun i => text[i]? == some '-') then
    readSimple? (text.take 8 ++ (text.drop 9).take 4 ++ (text.drop 14).take 4 ++
      (text.drop 19).take 4 ++ text.drop 24)
  else none

/-- Reads the digits alone, hyphenated, hyphenated in braces, or hyphenated as a URN. -/
def read? (text : List Char) : Option Uuid :=
  match text.length with
  | 32 => readSimple? text
  | 36 => readHyphenated? text
  | 38 =>
    if text.head? = some '\x7b' ∧ text.getLast? = some '\x7d' then
      readHyphenated? ((text.drop 1).take 36)
    else none
  | 45 =>
    if text.take 9 = "urn:uuid:".toList then readHyphenated? (text.drop 9) else none
  | _ => none

def version (u : Uuid) : Nat := u.toNat / Nat.pow 2 76 % 16

/-- The milliseconds since 1970 that an identifier of version 7 carries. -/
def millis (u : Uuid) : Nat := u.toNat / Nat.pow 2 80

/-- An identifier of version 7: 48 bits of time, then 74 bits that follow the version and the
variant. -/
def v7 (millis rest : Nat) : Uuid :=
  let high := rest / Nat.pow 2 62 % Nat.pow 2 12
  let low := rest % Nat.pow 2 62
  ofNat ((((millis % Nat.pow 2 48 * 16 + 7) * Nat.pow 2 12 + high) * 4 + 2) * Nat.pow 2 62 + low)

instance : LE Uuid := ⟨fun u v => u.toNat ≤ v.toNat⟩

instance (u v : Uuid) : Decidable (u ≤ v) := inferInstanceAs (Decidable (u.toNat ≤ v.toNat))

end Uuid

end Vestibule
