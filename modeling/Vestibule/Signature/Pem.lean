import Vestibule.Encoding.Base64
import Vestibule.Text.Chars

/-! Keys in PEM: a label, and DER in base64 between the lines that carry it. -/

namespace Vestibule

structure Pem where
  label : String
  content : List UInt8

namespace Pem

/-- The text before and after a mark. The search never goes back: what once looked like the beginning
of the mark is not looked at again. -/
def cut? (mark : List Char) (text : List Char) : Option (List Char × List Char) :=
  search mark [] text
where
  /-- Looks for `wanted`, the rest of the mark, behind what is passed, in reverse. -/
  search : List Char → List Char → List Char → Option (List Char × List Char)
    | [], passed, text => some ((passed.drop mark.length).reverse, text)
    | _ :: _, _, [] => none
    | w :: wanted, passed, c :: text =>
      search (if c = w then wanted else mark) (c :: passed) text

def isSpace (c : Char) : Bool := c = ' ' || c = '\t' || c = '\n' || c = '\r'

/-- The header lines, which end at an empty line, and the rest. -/
def splitHeaders (body : List Char) : List Char × List Char :=
  ((cut? ['\n', '\n'] body).orElse fun _ => cut? ['\r', '\n', '\r', '\n'] body).getD ([], body)

/-- Header lines have a name and a value around a colon. -/
def areHeaders (text : List Char) : Bool :=
  text.isEmpty || (text.splitOn '\n').all (·.contains ':')

def read? (text : String) : Option Pem := do
  let (_, rest) ← cut? "-----BEGIN ".toList text.toList
  let (label, rest) ← cut? "-----".toList rest
  let (body, rest) ← cut? "-----END ".toList (rest.dropWhile isSpace)
  let (final, _) ← cut? "-----".toList rest
  if label.isEmpty ∨ label ≠ final then none
  let (headers, data) := splitHeaders body
  if !areHeaders headers then none
  let content ← Base64.decodePadded? .standard (data.filter fun c => !Text.isBlank c)
  return ⟨String.ofList label, content⟩

end Pem

end Vestibule
