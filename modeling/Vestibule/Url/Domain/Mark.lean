import Vestibule.Url.Domain.MarkTable

/-! Marks in domain names: accents, vowel signs and others that belong to a character before them. -/

namespace Vestibule.Domain

def isNonspacing (c : Char) : Bool := 0x300 ≤ c.toNat && nonspacingCodes.hasChar c

def isMark (c : Char) : Bool := isNonspacing c || (0x300 ≤ c.toNat && spacingCodes.hasChar c)

/-- Where a mark sits. Characters that are no marks have class 0. -/
def combiningClass (c : Char) : Nat :=
  if c.toNat < 0x300 then 0 else (combiningCodes.value? c).getD 0

/-- The class of marks that take the vowel from a letter, so that it may join the next. -/
def viramaClass : Nat := 9

end Vestibule.Domain
