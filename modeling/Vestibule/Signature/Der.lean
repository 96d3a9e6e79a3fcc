import Vestibule.Digest.Words

/-! Keys as their owners read them: values whose tags take one byte and whose lengths take as few
bytes as they can, with nothing left over. -/

namespace Vestibule.Der

/-- Reads a part of some bytes and leaves the rest. -/
abbrev Reader := StateT (List UInt8) Option

def sequenceTag : UInt8 := 0x30

def integerTag : UInt8 := 0x02

def bitStringTag : UInt8 := 0x03

def octetStringTag : UInt8 := 0x04

/-- The tag of the optional part of a number in a sequence. -/
def partTag (number : UInt8) : UInt8 := 0xa0 + number

/-- A length below `2 ^ 16`, in one byte or behind the count of its bytes. -/
def length? : List UInt8 → Option (Nat × List UInt8)
  | 0x81 :: a :: rest => if a < 0x80 then none else some (a.toNat, rest)
  | 0x82 :: a :: b :: rest => if a = 0 then none else some (a.toNat * 256 + b.toNat, rest)
  | a :: rest => if a < 0x80 then some (a.toNat, rest) else none
  | [] => none

/-- The content of a value of this tag. -/
def value (tag : UInt8) : Reader (List UInt8) := fun bytes =>
  match bytes with
  | found :: rest =>
    if found ≠ tag then none
    else
      match length? rest with
      | some (size, rest) =>
        if rest.length < size then none else some (rest.take size, rest.drop size)
      | none => none
  | [] => none

/-- Reads all of some bytes. -/
def whole? {α : Type} (r : Reader α) (bytes : List UInt8) : Option α :=
  match r.run bytes with
  | some (a, []) => some a
  | _ => none

/-- Reads all of the content of a value of this tag. -/
def within {α : Type} (tag : UInt8) (r : Reader α) : Reader α := do
  let content ← value tag
  StateT.lift (whole? r content)

/-- The content of a value of this tag, if such a value comes next. -/
def option (tag : UInt8) : Reader (Option (List UInt8)) := fun bytes =>
  if bytes.head? = some tag then (value tag bytes).map fun (content, rest) => (some content, rest)
  else some (none, bytes)

/-- The bytes of an integer that is not negative, without a zero that only keeps its sign. -/
def magnitude? : List UInt8 → Option (List UInt8)
  | [] => none
  | [0] => some [0]
  | 0 :: b :: rest => if b < 0x80 then none else some (b :: rest)
  | b :: rest => if b < 0x80 then some (b :: rest) else none

def natural : Reader Nat := do
  return Words.toNat (← StateT.lift (magnitude? (← value integerTag)))

/-- A bit string of whole bytes. -/
def bytes : Reader (List UInt8) := do
  match ← value bitStringTag with
  | 0 :: content => return content
  | _ => StateT.lift none

/-- Goes on only with an integer that is `n`. -/
def exactly (n : Nat) : Reader Unit := do
  if (← natural) = n then return else StateT.lift none

end Vestibule.Der
