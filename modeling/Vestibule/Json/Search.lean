import Vestibule.Json.Basic

/-! Looking for texts inside a value. -/

namespace Vestibule.Json

mutual

/-- The texts that members of the given names hold, at any depth. Members are visited in the order
of their names. -/
def textsUnder (names : List String) : Json → List String
  | .array items => textsUnderItems names items
  | .object members =>
    ((textsUnderMembers names members).mergeSort fun a b => a.1 ≤ b.1).flatMap (·.2)
  | _ => []

def textsUnderItems (names : List String) : List Json → List String
  | [] => []
  | j :: items => textsUnder names j ++ textsUnderItems names items

def textsUnderMembers (names : List String) :
    List (String × Json) → List (String × List String)
  | [] => []
  | (name, .string s) :: members =>
    (name, if names.contains name then [s] else []) :: textsUnderMembers names members
  | (name, j) :: members => (name, textsUnder names j) :: textsUnderMembers names members

end

end Vestibule.Json
