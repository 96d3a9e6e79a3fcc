import Vestibule.Text.Chars
import Vestibule.Url.Percent

/-! Paths of URLs as lists of segments. Segments of dots are resolved while a path is read, but
nothing leads above a segment that names a drive. -/

namespace Vestibule

namespace Url

/-- In special URLs a backslash parts segments too. -/
def isSlash (special : Bool) (c : Char) : Bool := c == '/' || (special && c == '\\')

/-- Where the host, the port and the user of a URL end. -/
def endsAuthority (special : Bool) (c : Char) : Bool := isSlash special c || c == '?' || c == '#'

/-- What comes before the query and the fragment. -/
def beforeTail (text : List Char) : List Char := text.takeWhile fun c => c != '?' && c != '#'

namespace Segment

/-- A segment of `n` dots, each of them encoded or not. -/
def isDots : Nat → List Char → Bool
  | 0, [] => true
  | n + 1, '.' :: rest => isDots n rest
  | n + 1, '%' :: '2' :: 'e' :: rest | n + 1, '%' :: '2' :: 'E' :: rest => isDots n rest
  | _, _ => false

/-- A letter with a colon or a bar. -/
def isDrive : List Char → Bool
  | [letter, sign] => Text.isAsciiLetter letter && (sign == ':' || sign == '|')
  | _ => false

/-- A drive with its colon. -/
def normalDrive (segment : List Char) : List Char :=
  if isDrive segment then segment.take 1 ++ [':'] else segment

end Segment

open Segment

/-- The path one segment up. -/
def parent (path : List (List Char)) : List (List Char) :=
  if path.getLast?.any isDrive then path else path.dropLast

/-- The path `done` with more segments, those of dots resolved. Dots at the end leave a slash. -/
def resolve (done : List (List Char)) : List (List Char) → List (List Char)
  | [] => done
  | segment :: rest =>
    let slash := if rest.isEmpty then [[]] else []
    let done :=
      if isDots 2 segment then parent done ++ slash
      else if isDots 1 segment then done ++ slash
      else done ++ [segment]
    resolve done rest

/-- The segments of a text without its first slash. -/
def readSegments (special : Bool) (done : List (List Char)) (text : List Char) :
    List (List Char) :=
  resolve done ((Text.splitAt (isSlash special) text).map (Percent.encode Percent.path))

/-- The path after an authority. Special URLs have one at least of a slash. -/
def readPath (special : Bool) (text : List Char) : List (List Char) :=
  match text with
  | [] => if special then [[]] else []
  | c :: rest => readSegments special [] (if isSlash special c then rest else text)

/-- The path of a file. Its drives have a colon, and it begins with one slash only. -/
def readFilePath (text : List Char) : List (List Char) :=
  let parts := (Text.splitAt (isSlash true) text).map (Percent.encode Percent.path)
  let kept := (resolve [] (parts.map normalDrive)).dropWhile List.isEmpty
  if kept.isEmpty then [[]] else kept

end Url

end Vestibule
