import Vestibule.Json.Basic

/-! Changes to JSON values as a whole: texts replaced everywhere, members left out, and one object
laid over another. -/

namespace Vestibule.Json

/-- The members of an object; any other value has none. -/
def members (j : Json) : List (String × Json) := j.object?.getD []

/-- The members of `base`, with those of `changes` in place of or after them. -/
def overlay (base changes : Json) : Json :=
  .object ((base.members.filter fun m => (changes.member? m.1).isNone) ++ changes.members)

mutual

/-- Applies `text` to every text and name, and leaves out the members whose value is not kept. -/
def rebuild (text : String → String) (keep : Json → Bool) : Json → Json
  | .string s => .string (text s)
  | .array items => .array (rebuildItems text keep items)
  | .object members => .object (rebuildMembers text keep members)
  | j => j

def rebuildItems (text : String → String) (keep : Json → Bool) : List Json → List Json
  | [] => []
  | j :: items => rebuild text keep j :: rebuildItems text keep items

def rebuildMembers (text : String → String) (keep : Json → Bool) :
    List (String × Json) → List (String × Json)
  | [] => []
  | (name, j) :: members =>
    if keep j then (text name, rebuild text keep j) :: rebuildMembers text keep members
    else rebuildMembers text keep members

end

def isNull : Json → Bool
  | .null => true
  | _ => false

/-- The value without the members that are null, at every depth. -/
def withoutNulls : Json → Json := rebuild id fun j => !j.isNull

def mapText (f : String → String) : Json → Json := rebuild f fun _ => true

end Vestibule.Json
