/-! UTF-8 as lists of bytes. -/

namespace Vestibule.Utf8

def encode (text : String) : List UInt8 :=
  text.toList.flatMap String.utf8EncodeChar

/-- The text whose encoding is `bytes`, if there is one. -/
def decode? (bytes : List UInt8) : Option String :=
  String.fromUTF8? (ByteArray.mk bytes.toArray)

/-- The number of bytes that open with `lead` takes, and the least second byte and the greatest
that may follow it. -/
def shape (lead : UInt8) : Option (Nat × UInt8 × UInt8) :=
  if lead < 0x80 then some (1, 0x80, 0xBF)
  else if 0xC2 ≤ lead ∧ lead ≤ 0xDF then some (2, 0x80, 0xBF)
  else if lead = 0xE0 then some (3, 0xA0, 0xBF)
  else if lead = 0xED then some (3, 0x80, 0x9F)
  else if 0xE1 ≤ lead ∧ lead ≤ 0xEF then some (3, 0x80, 0xBF)
  else if lead = 0xF0 then some (4, 0x90, 0xBF)
  else if lead = 0xF4 then some (4, 0x80, 0x8F)
  else if 0xF1 ≤ lead ∧ lead ≤ 0xF3 then some (4, 0x80, 0xBF)
  else none

/-- How many of the bytes after a lead byte continue its character. -/
def continued (need : Nat) (low high : UInt8) : List UInt8 → Nat
  | [] => 0
  | b :: rest =>
    if need = 0 then 0
    else if low ≤ b ∧ b ≤ high then continued (need - 1) 0x80 0xBF rest + 1
    else 0

/-- The text of `bytes`, where each longest malformed run becomes one replacement character. -/
def decodeLossy (bytes : List UInt8) : List Char :=
  match bytes with
  | [] => []
  | lead :: rest =>
    match shape lead with
    | none => '\uFFFD' :: decodeLossy rest
    | some (size, low, high) =>
      let more := continued (size - 1) low high rest
      let chars :=
        if more + 1 = size then
          ((decode? (lead :: rest.take more)).getD "\uFFFD").toList
        else ['\uFFFD']
      chars ++ decodeLossy (rest.drop more)
termination_by bytes.length
decreasing_by
  all_goals
    simp only [List.length_cons, List.length_drop]
    omega

end Vestibule.Utf8
