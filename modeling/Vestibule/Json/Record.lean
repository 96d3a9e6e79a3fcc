import Vestibule.Id.Uuid
import Vestibule.Json.Basic
import Vestibule.Time.Rfc3339

/-! Records as JSON. A record is read from an object, whose members may come in any order and may
include unknown ones, or from an array of its fields in order. -/

namespace Vestibule

namespace Json

def ofUuid (id : Uuid) : Json := text id.hyphenated

def uuid? (j : Json) : Option Uuid := j.string?.bind fun s => Uuid.read? s.toList

def ofInstant (t : Instant) : Json := text (Rfc3339.write t)

def instant? (j : Json) : Option Instant := j.string?.bind fun s => Rfc3339.read? s.toList

/-- The name of a case without fields: a string, or an object with this one member, whose value is
null. -/
def caseName? : Json → Option String
  | .string s => some s
  | .object [(name, .null)] => some name
  | _ => none

/-- The name of a case without fields inside a tagged value, where an empty object may stand for
the null as well. -/
def innerCaseName? : Json → Option String
  | .object [(name, .object [])] => some name
  | j => caseName? j

mutual

/-- The value in which only the last of the members of each name is left. -/
def lastWins : Json → Json
  | .array items => .array (lastWinsItems items)
  | .object members => .object (lastWinsMembers members)
  | j => j

def lastWinsItems : List Json → List Json
  | [] => []
  | j :: items => lastWins j :: lastWinsItems items

def lastWinsMembers : List (String × Json) → List (String × Json)
  | [] => []
  | (name, j) :: members =>
    let rest := lastWinsMembers members
    if rest.any (·.1 == name) then rest else (name, lastWins j) :: rest

end

end Json

/-- What a record holds at a field: a value, nothing in an object, or nothing because an array
ended. -/
inductive Slot where
  | given (value : Json)
  | missing
  | cut

/-- The fields of a record, by name. -/
structure Row where
  slot : String → Slot

namespace Row

/-- No field may be repeated, and an array may hold no more than the fields. -/
def ofJson? (fields : List String) : Json → Option Row
  | .object members =>
    if fields.all fun name => (members.filter (·.1 == name)).length ≤ 1 then
      some ⟨fun name => match members.lookup name with
        | some j => .given j
        | none => .missing⟩
    else none
  | .array items =>
    if items.length ≤ fields.length then
      some ⟨fun name => match (fields.zip items).lookup name with
        | some j => .given j
        | none => .cut⟩
    else none
  | _ => none

def required {α : Type} (r : Row) (name : String) (decode : Json → Option α) : Option α :=
  match r.slot name with
  | .given j => decode j
  | _ => none

/-- A field that an object may leave out, and that may be null. -/
def optional {α : Type} (r : Row) (name : String) (decode : Json → Option α) : Option (Option α) :=
  match r.slot name with
  | .given j => Json.optionOf? decode j
  | .missing => some none
  | .cut => none

/-- A field that may be left out. -/
def defaulted {α : Type} (r : Row) (name : String) (default : α) (decode : Json → Option α) :
    Option α :=
  match r.slot name with
  | .given j => decode j
  | _ => some default

def flag (r : Row) (name : String) : Option Bool :=
  r.defaulted name false Json.bool?

end Row

namespace Json

/-- The tag `type` of a tagged value and the value without it. An object has the tag as a member,
an array as its first item. All of the value must be readable, since the tag may come last. -/
def tagged? (j : Json) : Option (String × Json) := do
  match ← j.readable? with
  | .object members =>
    match members.filter (·.1 == "type") with
    | [(_, .string tag)] => some (tag, .object (members.filter (·.1 != "type")))
    | _ => none
  | .array (.string tag :: items) => some (tag, .array items)
  | _ => none

/-- The tag of a tagged value inside another one, where a number stands for the tag at its place in
`tags`. -/
def innerTagged? (tags : List String) : Json → Option (String × Json)
  | .object members =>
    match members.filter (·.1 == "type") with
    | [(_, .number (.int n))] => do
      if n < 0 then none
      return (← tags[n.toNat]?, .object (members.filter (·.1 != "type")))
    | _ => tagged? (.object members)
  | .array (.number (.int n) :: items) => do
    if n < 0 then none
    return (← tags[n.toNat]?, .array items)
  | j => tagged? j

/-- A tagged value with its fields. -/
def ofTagged (tag : String) (members : List (String × Json)) : Json :=
  .object (("type", .string tag) :: members)

end Json

end Vestibule
