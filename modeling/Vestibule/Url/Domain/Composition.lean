import Vestibule.Url.Domain.Mark

/-! The composed form of the characters of a domain name: marks in the order of their classes, each
joined to its base where there is one character for both. Texts that are written alike, such as a
letter with two marks in either order, have the same composed form. -/

namespace Vestibule.Domain

namespace Hangul

/-- The first syllable and the codes before the first leading letter, vowel and trailing letter. -/
def syllables : Nat := 0xAC00
def leads : Nat := 0x1100
def vowels : Nat := 0x1161
def tails : Nat := 0x11A7

/-- The letters of a syllable: one of 19, one of 21 and one of 27 or none. -/
def letters? (c : Char) : Option (List Char) :=
  let n := c.toNat - syllables
  if c.toNat < syllables ∨ 19 * 21 * 28 ≤ n then none
  else
    let tail := if n % 28 = 0 then [] else [Char.ofNat (tails + n % 28)]
    some ([Char.ofNat (leads + n / 588), Char.ofNat (vowels + n % 588 / 28)] ++ tail)

/-- The syllable of a leading letter and a vowel, or of a syllable and a trailing letter. -/
def join? (a b : Char) : Option Char :=
  let lead := a.toNat - leads
  let vowel := b.toNat - vowels
  let tail := b.toNat - tails
  let place := a.toNat - syllables
  if leads ≤ a.toNat ∧ lead < 19 ∧ vowels ≤ b.toNat ∧ vowel < 21 then
    some (Char.ofNat (syllables + (lead * 21 + vowel) * 28))
  else if syllables ≤ a.toNat ∧ place < 19 * 21 * 28 ∧ place % 28 = 0 ∧ tails < b.toNat ∧
      tail < 28 then
    some (Char.ofNat (a.toNat + tail))
  else none

end Hangul

/-- The characters that a composed one is made of. The first of them may be composed itself. -/
def split (c : Char) : List Char :=
  if c.toNat < 0xC0 then [c]
  else
    match Hangul.letters? c, compositeCodes.row? c with
    | some letters, _ => letters
    | none, some row => row.values.map Char.ofNat
    | none, none => [c]

/-- The characters of a text without composed ones. None is made of more than four. -/
def splitAll (text : List Char) : List Char :=
  ((text.flatMap split).flatMap split).flatMap split

/-- The character that is made of two. -/
def pair? (a b : Char) : Option Char :=
  if b.toNat < 0x300 then none
  else
    (Hangul.join? a b).or
      ((compositeCodes.find? (·.values == [a.toNat, b.toNat])).map fun row => Char.ofNat row.first)

/-- Puts a character before marks that are in order. A mark goes behind those of lesser classes. -/
def insertMark (c : Char) : List Char → List Char
  | [] => [c]
  | d :: rest =>
    if 0 < combiningClass d ∧ combiningClass d < combiningClass c then d :: insertMark c rest
    else c :: d :: rest

def inOrder (text : List Char) : List Char := text.foldr insertMark []

/-- Joins each character to the base before it. A mark that stays behind the base, in `between` from
the last to the first, keeps those of its class and of lesser ones from being joined. -/
def joined (base : Option Char) (between : List Char) : List Char → List Char
  | [] => base.toList ++ between.reverse
  | c :: rest =>
    let blocked := between.head?.any fun m => combiningClass c ≤ combiningClass m
    match base.bind fun b => if blocked then none else pair? b c with
    | some whole => joined (some whole) between rest
    | none =>
      if combiningClass c = 0 then base.toList ++ between.reverse ++ joined (some c) [] rest
      else joined base (c :: between) rest

def composed (text : List Char) : List Char := joined none [] (inOrder (splitAll text))

end Vestibule.Domain
