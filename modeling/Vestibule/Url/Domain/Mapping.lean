import Vestibule.Url.Domain.MappingTable

/-! What the characters of a domain name stand for. Names that look alike or differ in case only are
written with the same characters after this. -/

namespace Vestibule.Domain

def isAscii (c : Char) : Bool := c.toNat < 128

/-- The small letter of a capital one in an alphabet of pairs, else the character itself. -/
def ofPair (c : Char) : Char :=
  match pairedCodes.row? c with
  | some row => if (c.toNat - row.first) % 2 = 0 then Char.ofNat (c.toNat + 1) else c
  | none => c

/-- What a character stands for, unless no name may have it. -/
def mapChar? (c : Char) : Option (List Char) :=
  if isAscii c then some [Text.toAsciiLower c]
  else if refusedCodes.hasChar c then none
  else if ignoredCodes.hasChar c then some []
  else
    match mappedCodes.row? c with
    | some ⟨first, _, [value]⟩ => some [Char.ofNat (value + (c.toNat - first))]
    | some row => some (row.values.map Char.ofNat)
    | none => some [ofPair c]

def mapText? (text : List Char) : Option (List Char) := (text.mapM mapChar?).map List.flatten

end Vestibule.Domain
