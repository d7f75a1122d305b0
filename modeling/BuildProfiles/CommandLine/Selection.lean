/-
Selections and definitions as they are written on a command line.

A selection is a list of ids with commas between them, where `!` or `-` in
front of an id deselects it and `+` says that it is selected, as an id without
a mark is. A definition is a name and a value with `=` between them; a name
alone has the value `true`.
-/
import BuildProfiles.Properties
import BuildProfiles.Text.Blank

namespace BuildProfiles

open Text

/-- The ids that are selected and those that are deselected, each in order. -/
structure Selection where
  active : List Text := []
  inactive : List Text := []
  deriving DecidableEq, Repr

namespace Selection

/-- One written id: whether it is selected, and the id without its mark. -/
def mark : List CodePoint → Bool × List CodePoint
  | .char '!' :: id => (false, id)
  | .char '-' :: id => (false, id)
  | .char '+' :: id => (true, id)
  | id => (true, id)

/-- The ids that a text writes, with their marks. -/
def tokens (value : Text) : List (List CodePoint) :=
  ((value.toList.splitOn (.char ',')).map trim).filter (· ≠ [])

/-- The marked ids of all texts, in order. -/
def marks (values : List Text) : List (Bool × Text) :=
  (values.flatMap tokens).map fun token =>
    let (selected, id) := mark token
    (selected, Text.ofList id)

def withMark (selected : Bool) (marks : List (Bool × Text)) : List Text :=
  (marks.filter (·.1 == selected)).map (·.2)

def parse (values : List Text) : Selection where
  active := withMark true (marks values)
  inactive := withMark false (marks values)

end Selection

/-- The name and the value that a text defines. -/
def definition (value : Text) : Text × Text :=
  let text := value.toList
  let name := Text.ofList (trim (text.takeWhile (· != .char '=')))
  match text.dropWhile (· != .char '=') with
  | [] => (name, "true")
  | _ :: rest => (name, Text.ofList rest)

/-- What the texts define. A later definition of a name replaces an earlier one. -/
def Properties.parse (values : List Text) : Properties := .ofList (values.map definition)

end BuildProfiles
