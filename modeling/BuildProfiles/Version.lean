/-
Versions and their order.

A version is cut at `.`, `-` and `_`, and each piece must write a whole
number. Versions are compared piece by piece; the shorter one goes on with
zeros, so `1.8` and `1.8.0` are the same version.
-/
import BuildProfiles.Numeral

namespace BuildProfiles

/-- Why a version cannot be judged. -/
inductive VersionError where
  /-- A piece of the version writes no number. -/
  | nonNumeric (version : Text)
  /-- A range was given fewer than two bounds. -/
  | missingBound
  deriving DecidableEq, Repr

def VersionError.message : VersionError → Text
  | .nonNumeric version => "Non-numeric version token in '" ++ version ++ "'"
  | .missingBound => "list index out of range"

namespace Version

/-- A character between two pieces of a version. -/
def isSeparator (c : CodePoint) : Bool := c == '.' || c == '-' || c == '_'

/-- The numbers of a version, if every piece writes one. -/
def components? (version : Text) : Option (List Int) :=
  (version.toList.splitOnP isSeparator).mapM Numeral.read?

def components (version : Text) : Except VersionError (List Int) :=
  match components? version with
  | some numbers => .ok numbers
  | none => .error (.nonNumeric version)

/-- A list of numbers against zeros without end. -/
def compareZeros : List Int → Ordering
  | [] => .eq
  | x :: xs => (Ord.compare x 0).then (compareZeros xs)

/-- The first difference decides; a list that has ended goes on with zeros. -/
def compareComponents : List Int → List Int → Ordering
  | [], ys => (compareZeros ys).swap
  | xs, [] => compareZeros xs
  | x :: xs, y :: ys => (Ord.compare x y).then (compareComponents xs ys)

/-- How `left` stands to `right`. A version that cannot be read is named; of
two such versions, the left one. -/
def compare (left right : Text) : Except VersionError Ordering := do
  let xs ← components left
  let ys ← components right
  return compareComponents xs ys

example : compare "1.8" "1-8_0" = .ok .eq := by cbv

end Version

end BuildProfiles
