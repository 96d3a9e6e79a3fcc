import Vestibule.Encoding.Utf8
import Vestibule.Encoding.Utf16
import Vestibule.Text.Chars

/-! The encoding that a text is in: a byte order mark tells it, or the content type names it. -/

namespace Vestibule

/-- The encodings of Unicode. -/
inductive Charset where
  | utf8
  | utf16 (bigEndian : Bool)
  deriving DecidableEq, Repr

namespace Charset

def decode : Charset → List UInt8 → String
  | utf8, bytes => String.ofList (Utf8.decodeLossy bytes)
  | utf16 bigEndian, bytes => String.ofList (Utf16.decodeLossy bigEndian bytes)

/-- The encoding that bytes begin with the mark of, and what follows the mark. -/
def marked? : List UInt8 → Option (Charset × List UInt8)
  | 0xEF :: 0xBB :: 0xBF :: rest => some (utf8, rest)
  | 0xFE :: 0xFF :: rest => some (utf16 true, rest)
  | 0xFF :: 0xFE :: rest => some (utf16 false, rest)
  | _ => none

/-- The names of an encoding, in lower case. -/
def labels : Charset → List String
  | utf8 =>
    ["unicode-1-1-utf-8", "unicode11utf8", "unicode20utf8", "utf-8", "utf8", "x-unicode20utf8"]
  | utf16 true => ["unicodefffe", "utf-16be"]
  | utf16 false =>
    ["csunicode", "iso-10646-ucs-2", "ucs-2", "unicode", "unicodefeff", "utf-16", "utf-16le"]

def isLabelSpace (c : Char) : Bool :=
  c = ' ' || c = '\t' || c = '\n' || c = '\r' || c.toNat = 0x0C

/-- The encoding of a name in any case, with space around it. -/
def ofLabel? (label : List Char) : Option Charset :=
  let name := ((label.dropWhile isLabelSpace).reverse.dropWhile isLabelSpace).reverse
  [utf8, utf16 true, utf16 false].find? fun charset =>
    charset.labels.any fun known => Text.eqIgnoringCase known.toList name

end Charset

namespace MediaType

def isTokenChar (c : Char) : Bool :=
  Text.isAsciiLetter c || Text.isAsciiDigit c || "!#$%&'*+-.^_`|~".toList.contains c

def isQuotable (c : Char) : Bool := 0x20 ≤ c.toNat && c.toNat < 0x7F

/-- Where in a parameter a reader is, and what it has read of it. -/
inductive Place where
  | name (read : List Char)
  | value (name read : List Char)
  | quoted (name read : List Char)
  | closed
  deriving DecidableEq, Repr

/-- The names and values of the parameters that a text goes on with. A quoted value has at least one
character, so that a quote may be its first. -/
def parameters? : Place → List Char → Option (List (List Char × List Char))
  | .name read, [] => if read = [] then some [] else none
  | .name read, c :: rest =>
    if c = ' ' ∧ read = [] then parameters? (.name []) rest
    else if isTokenChar c then parameters? (.name (read ++ [c])) rest
    else if c = '=' ∧ read ≠ [] then parameters? (.value read []) rest
    else none
  | .value name read, [] => some [(name, read)]
  | .value name read, c :: rest =>
    if c = '"' ∧ read = [] then parameters? (.quoted name []) rest
    else if isTokenChar c then parameters? (.value name (read ++ [c])) rest
    else if c = ';' ∧ read ≠ [] then (parameters? (.name []) rest).map ((name, read) :: ·)
    else none
  | .quoted _ _, [] => none
  | .quoted name read, c :: rest =>
    if c = '"' ∧ read ≠ [] then (parameters? .closed rest).map ((name, read) :: ·)
    else if isQuotable c then parameters? (.quoted name (read ++ [c])) rest
    else none
  | .closed, [] => some []
  | .closed, c :: rest =>
    if c = ';' then parameters? (.name []) rest
    else if c = ' ' then parameters? .closed rest
    else none

/-- The parameters of a content type. -/
def read? (text : List Char) : Option (List (List Char × List Char)) :=
  match text.takeWhile isTokenChar, text.dropWhile isTokenChar with
  | _ :: _, '/' :: rest =>
    match rest.takeWhile isTokenChar, rest.dropWhile isTokenChar with
    | _, [] => some []
    | _ :: _, ';' :: rest => parameters? (.name []) rest
    | _, _ => none
  | _, _ => none

/-- The name of the encoding in a content type. -/
def charset? (text : String) : Option (List Char) := do
  let parameters ← read? text.toList
  (parameters.find? fun p => Text.eqIgnoringCase p.1 "charset".toList).map (·.2)

end MediaType

end Vestibule
