import Vestibule.Url.Domain.Composition
import Vestibule.Url.Domain.Mapping
import Vestibule.Url.Domain.Script
import Vestibule.Url.Punycode

/-! Domain names of any script in ASCII. A name is first brought to the characters that it stands
for; then each label that has others than ASCII is written in letters and digits of ASCII behind a
sign that says so. -/

namespace Vestibule.Domain

/-- What a label in ASCII begins with that stands for other characters. -/
def codedSign : List Char := "xn--".toList

/-- The longest label that is read from ASCII, and the longest of other characters. -/
def codedLimit : Nat := 2000
def labelLimit : Nat := 1000

/-- The characters that a text stands for, in composed form. -/
def normal? (text : List Char) : Option (List Char) := (mapText? text).map composed

/-- The characters of a label. One in ASCII must stand for what could be written without it. -/
def spelled? (isDenied : Char → Bool) (label : List Char) : Option (List Char) := do
  match Text.after? codedSign label with
  | none => if label.any isDenied then none else some label
  | some coded =>
    if coded.any (!isAscii ·) || codedLimit < coded.length then none
    let text ← Punycode.decode? coded
    if text.all isAscii || text.any isDenied || normal? text ≠ some text then none
    return text

/-- Whether other characters than ASCII stand in a label where they may. -/
def isLabel (label : List Char) : Bool :=
  label.all isAscii ||
    (label.length ≤ labelLimit && !label.head?.any isMark && joinersFit [] label)

def labelToAscii (label : List Char) : List Char :=
  if label.all isAscii then label else codedSign ++ Punycode.encode label

/-- A name in ASCII, without characters that are denied. Labels may be empty. -/
def toAscii? (isDenied : Char → Bool) (name : List Char) : Option (List Char) := do
  let labels ← (Text.splitAt (· == '.') (← normal? name)).mapM (spelled? isDenied)
  let directed := !labels.any isBidirectional || labels.all keepsDirection
  if labels.all isLabel && directed then
    some (['.'].intercalate (labels.map labelToAscii))
  else none

end Vestibule.Domain
