import Vestibule.Encoding.Hex
import Vestibule.Json.Basic
import Vestibule.Json.Double

/-! JSON text without spaces. What was unreadable is written as null. -/

namespace Vestibule.Json

/-- Quotes, backslashes and control characters are escaped, all else stands for itself. -/
def escape (c : Char) : List Char :=
  if c = '"' then ['\\', '"']
  else if c = '\\' then ['\\', '\\']
  else if c = '\n' then ['\\', 'n']
  else if c = '\r' then ['\\', 'r']
  else if c = '\t' then ['\\', 't']
  else if c.toNat = 8 then ['\\', 'b']
  else if c.toNat = 12 then ['\\', 'f']
  else if c.toNat < 32 then ['\\', 'u'] ++ Hex.ofNat 4 c.toNat
  else [c]

def quoted (s : String) : List Char :=
  '"' :: s.toList.flatMap escape ++ ['"']

def writeNumber : JsonNumber → List Char
  | .int n => (toString n).toList
  | .double bits => Double.write bits

mutual

def write : Json → List Char
  | .null | .unreadable => "null".toList
  | .bool b => if b then "true".toList else "false".toList
  | .number n => writeNumber n
  | .string s => quoted s
  | .array [] => ['[', ']']
  | .array (j :: items) => '[' :: write j ++ writeItems items
  | .object [] => ['\x7b', '\x7d']
  | .object ((name, j) :: members) => '\x7b' :: quoted name ++ ':' :: write j ++ writeMembers members

/-- The items after the first and the closing bracket. -/
def writeItems : List Json → List Char
  | [] => [']']
  | j :: items => ',' :: write j ++ writeItems items

/-- The members after the first and the closing brace. -/
def writeMembers : List (String × Json) → List Char
  | [] => ['\x7d']
  | (name, j) :: members => ',' :: quoted name ++ ':' :: write j ++ writeMembers members

end

def render (j : Json) : String := String.ofList j.write

end Vestibule.Json
