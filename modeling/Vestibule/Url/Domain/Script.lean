import Vestibule.Url.Domain.Mark
import Vestibule.Url.Domain.ScriptTable

/-! How the characters of a domain name are written: how they join, and in which direction they go. A
label may have a joiner only where it can be seen, and must keep to its direction. -/

namespace Vestibule.Domain

/-- How a letter joins others; no value for those that do not. -/
inductive Joining where
  | transparent
  | left
  | right
  | both
  deriving DecidableEq, Repr

def joining? (c : Char) : Option Joining :=
  match joiningCodes.value? c with
  | some 0 => some .transparent
  | some 1 => some .left
  | some 2 => some .right
  | some _ => some .both
  | none => if isNonspacing c then some .transparent else none

/-- Whether the first letter that counts joins in one of some ways. -/
def firstJoins (ways : List Joining) : List Char → Bool
  | [] => false
  | c :: rest =>
    match joining? c with
    | some .transparent => firstJoins ways rest
    | some way => ways.contains way
    | none => false

def nonJoiner : Char := '\u200C'
def joiner : Char := '\u200D'

/-- Whether the joiners of a label follow such a mark, or part letters that would join. What comes
before the text is in `before`, from the last to the first. -/
def joinersFit (before : List Char) : List Char → Bool
  | [] => true
  | c :: rest =>
    let afterVirama := before.head?.any (combiningClass · = viramaClass)
    let parts := c == nonJoiner && firstJoins [.left, .both] before && firstJoins [.right, .both] rest
    ((c != nonJoiner && c != joiner) || afterVirama || parts) && joinersFit (c :: before) rest

inductive Direction where
  | left
  | right
  | europeanDigit
  | arabicDigit
  | either
  | mark
  deriving DecidableEq, Repr

def direction (c : Char) : Direction :=
  match directionCodes.value? c with
  | some 0 => .left
  | some 1 => .right
  | some 2 => .europeanDigit
  | some 3 => .arabicDigit
  | some _ => .either
  | none => if isNonspacing c then .mark else .left

/-- Whether a name has anything written from right to left, so that the directions count. -/
def isBidirectional (name : List Char) : Bool :=
  name.any fun c => 0x590 ≤ c.toNat && [.right, .arabicDigit].contains (direction c)

/-- Whether a label can be told apart from its neighbours where directions mix: it has a direction
from its first letter on, it ends with a letter or a digit up to marks, has nothing of the other
direction, and only one kind of digits. -/
def keepsDirection (label : List Char) : Bool :=
  let body := (label.map direction).reverse.dropWhile (· == .mark)
  match (label.map direction).head?, body.head? with
  | some .left, some last =>
    [.left, .europeanDigit].contains last && !body.contains .right && !body.contains .arabicDigit
  | some .right, some last =>
    [.right, .europeanDigit, .arabicDigit].contains last && !body.contains .left &&
      !(body.contains .europeanDigit && body.contains .arabicDigit)
  | none, _ => true
  | _, _ => false

end Vestibule.Domain
