/-
Writing JSON in one line and in ASCII.

A comma and a colon are each followed by a space. In a string the quotation
mark, the backslash and five control characters have a letter; every other
character that is not printable ASCII is written in 16-bit units.
-/
import BuildProfiles.Json.Value

namespace BuildProfiles.Json

open Text

def escapedChar (c : Char) : List Char :=
  match c with
  | '"' => ['\\', '"']
  | '\\' => ['\\', '\\']
  | '\n' => ['\\', 'n']
  | '\r' => ['\\', 'r']
  | '\t' => ['\\', 't']
  | c =>
    let n := c.toNat
    if n = 0x08 then ['\\', 'b']
    else if n = 0x0C then ['\\', 'f']
    else if 0x20 ≤ n ∧ n ≤ 0x7E then [c]
    else if n < 0x10000 then '\\' :: 'u' :: hex 4 n
    else
      '\\' :: 'u' :: hex 4 (0xD800 + (n - 0x10000) / 0x400)
        ++ '\\' :: 'u' :: hex 4 (0xDC00 + (n - 0x10000) % 0x400)

def escapedPoint : CodePoint → List Char
  | .char c => escapedChar c
  | half => '\\' :: 'u' :: hex 4 half.toNat

/-- A string with its quotation marks. -/
def writtenString (s : Text) : String :=
  String.ofList ('"' :: s.toList.flatMap escapedPoint ++ ['"'])

/-- A number with a fraction or an exponent; what is no finite number has a name. -/
def writtenFloat : Binary64 → String
  | .nan => "NaN"
  | .infinity negative => if negative then "-Infinity" else "Infinity"
  | value => value.text

namespace Value

mutual

/-- The value in one line. -/
def written : Value → String
  | .null => "null"
  | .bool value => if value then "true" else "false"
  | .int value => toString value
  | .float value => writtenFloat value
  | .text value => writtenString value
  | .array items => "[" ++ String.intercalate ", " (writtenItems items) ++ "]"
  | .object members => "\x7b" ++ String.intercalate ", " (writtenMembers members) ++ "\x7d"

def writtenItems : List Value → List String
  | [] => []
  | item :: items => item.written :: writtenItems items

def writtenMembers : List (Text × Value) → List String
  | [] => []
  | (name, value) :: members => (writtenString name ++ ": " ++ value.written) :: writtenMembers members

end

end Value

example : (Value.object [("a", .array [.int 1, .text "é"])]).written
    = "\x7b\"a\": [1, \"\\u00e9\"]\x7d" := by decide +kernel

end BuildProfiles.Json
