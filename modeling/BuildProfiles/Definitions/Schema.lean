/-
Schemas of JSON documents, and what holds a document against one.

A schema says what kind of value a document is, which members an object must
and may have, and what schema each member or item has in turn. A `Validator`
lists what is wrong with a value, each violation with its path; `sorted` brings
the list into the order of the paths, element by element, where positions are
compared as numbers, names by code point, and a path comes before its extensions.
-/
import BuildProfiles.Json.Value

namespace BuildProfiles

/-- One element of a path into a document. -/
inductive PathStep where
  | item (position : Nat)
  | member (name : Text)
  deriving DecidableEq, Repr

/-- What a document must look like. -/
inductive Schema where
  /-- A text; a non-empty one if `filled`. -/
  | text (filled : Bool)
  | flag
  | list (items : Schema)
  /-- An object that has the members `required`, and if it is `closed` only
  members that `fields` describes. -/
  | record (required : List Text) (closed : Bool) (fields : List (Text × Schema))

namespace Schema

/-- The values that are as a schema wants them. -/
inductive Accepts : Schema → Json.Value → Prop
  | text {filled} {content : Text} : (filled = true → content ≠ "") → Accepts (.text filled) (.text content)
  | flag {value} : Accepts .flag (.bool value)
  | list {schema : Schema} {items} : (∀ item ∈ items, Accepts schema item) → Accepts (.list schema) (.array items)
  | record {required closed fields members} :
      (∀ name ∈ required, name ∈ members.map Prod.fst) →
      (closed = true → ∀ name ∈ members.map Prod.fst, name ∈ fields.map Prod.fst) →
      (∀ field ∈ fields, ∀ value, members.lookup field.1 = some value → Accepts field.2 value) →
      Accepts (.record required closed fields) (.object members)

/-- The paths into the values that a schema speaks about. -/
inductive Reaches : Schema → List PathStep → Prop
  | here {schema : Schema} : Reaches schema []
  | item {items position rest} : Reaches items rest → Reaches (.list items) (.item position :: rest)
  | member {required closed fields field rest} : field ∈ fields → Reaches field.2 rest →
      Reaches (.record required closed fields) (.member field.1 :: rest)

end Schema

/-- What is wrong with the value at a path. -/
structure Violation where
  path : List PathStep
  message : Text
  deriving DecidableEq, Repr

/-- What holds values against schemas. -/
structure Validator where
  violations : Schema → Json.Value → List Violation
  /-- There are none exactly if the schema accepts the value. -/
  accepts_iff : ∀ schema value, violations schema value = [] ↔ schema.Accepts value
  /-- A violation lies where the schema looks. -/
  reaches : ∀ schema value, ∀ violation ∈ violations schema value, schema.Reaches violation.path

def PathStep.text : PathStep → Text
  | .item position => toString position
  | .member name => name

/-- The path, or the document itself, and what is wrong there. -/
def Violation.detail (violation : Violation) : Text :=
  let place := Text.intercalate "/" (violation.path.map PathStep.text)
  (if place = "" then ("<root>" : Text) else place) ++ ": " ++ violation.message

/-- The order of path elements. Positions come before names; no document has
both at one place. -/
def PathStep.compare : PathStep → PathStep → Ordering
  | .item a, .item b => Ord.compare a b
  | .item _, .member _ => .lt
  | .member _, .item _ => .gt
  | .member a, .member b => Ord.compare a b

/-- The order of paths: the first difference decides, and a path comes before
its extensions. -/
def comparePaths : List PathStep → List PathStep → Ordering
  | [], [] => .eq
  | [], _ :: _ => .lt
  | _ :: _, [] => .gt
  | a :: as, b :: bs => (a.compare b).then (comparePaths as bs)

/-- The violations by their paths. Violations at one path stay in their order. -/
def Violation.sorted (violations : List Violation) : List Violation :=
  violations.mergeSort fun a b => (comparePaths a.path b.path).isLE

end BuildProfiles
