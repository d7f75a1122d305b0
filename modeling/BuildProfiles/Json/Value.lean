/-
JSON values.

An object keeps its members in the order in which their names first came, and
a whole number is kept apart from one written with a fraction or an exponent.
`Value.inspect` is the text by which messages show a value.
-/
import BuildProfiles.Decimal.Shortest
import BuildProfiles.Text.Quoted

namespace BuildProfiles.Json

/-- A JSON value. The names of an object's members are distinct. -/
inductive Value where
  | null
  | bool (value : Bool)
  | int (value : Int)
  | float (value : Binary64)
  | text (value : Text)
  | array (items : List Value)
  | object (members : List (Text × Value))
  deriving Repr, Inhabited

/-- The members with `name` given the value: in its place if the name is
there, else at the end. -/
def setMember (name : Text) (value : Value) : List (Text × Value) → List (Text × Value)
  | [] => [(name, value)]
  | (other, old) :: members =>
    if other = name then (name, value) :: members else (other, old) :: setMember name value members

namespace Value

def member? (name : Text) : Value → Option Value
  | .object members => members.lookup name
  | _ => none

def text? : Value → Option Text
  | .text value => some value
  | _ => none

def bool? : Value → Option Bool
  | .bool value => some value
  | _ => none

def items? : Value → Option (List Value)
  | .array items => some items
  | _ => none

mutual

/-- The value as messages show it. -/
def inspect : Value → Text
  | .null => "None"
  | .bool value => if value then "True" else "False"
  | .int value => toString value
  | .float value => value.text
  | .text value => Text.quoted value
  | .array items => "[" ++ Text.intercalate ", " (inspectItems items) ++ "]"
  | .object members => "\x7b" ++ Text.intercalate ", " (inspectMembers members) ++ "\x7d"

def inspectItems : List Value → List Text
  | [] => []
  | item :: items => item.inspect :: inspectItems items

def inspectMembers : List (Text × Value) → List Text
  | [] => []
  | (name, value) :: members => (Text.quoted name ++ ": " ++ value.inspect) :: inspectMembers members

end

end Value

end BuildProfiles.Json
