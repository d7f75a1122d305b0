/-
Requirements on a version.

`1.8` asks that the version's text starts so, `!1.8` that it does not, and a
text that opens with a bracket is a range: two bounds with a comma between,
where a square bracket takes the bound itself in and a round one leaves it
out. An empty bound does not restrict.
-/
import BuildProfiles.Version

namespace BuildProfiles

/-- One end of a range. An empty `value` does not restrict. -/
structure Bound where
  value : Text
  closed : Bool
  deriving DecidableEq, Repr

namespace Version

open Text

/-- A range opens with a square or a round bracket. -/
def isRange (requirement : Text) : Bool :=
  match requirement.toList with
  | .char '[' :: _ => true
  | .char '(' :: _ => true
  | _ => false

def isBracket (c : CodePoint) : Bool := c == '[' || c == ']' || c == '(' || c == ')'

/-- The bound that a piece of a range writes. The opening bracket decides
whether the bound is closed, else the closing one; a piece without either is
a bound only if it is empty. -/
def bound? (piece : List CodePoint) : Option Bound :=
  let value := Text.ofList (trimBy isBracket piece)
  if piece.head? = some (.char '[') then some ⟨value, true⟩
  else if piece.head? = some (.char '(') then some ⟨value, false⟩
  else if piece.getLast? = some (.char ']') then some ⟨value, true⟩
  else if piece.getLast? = some (.char ')') then some ⟨value, false⟩
  else if piece.isEmpty then some ⟨"", false⟩
  else none

/-- The upper bound of a range that writes one bound only. -/
def unboundedUpper : Bound := ⟨"99999999", false⟩

def bounds (requirement : Text) : List Bound :=
  let written := (requirement.toList.splitOn (.char ',')).filterMap fun piece => bound? (trim piece)
  if written.length < 2 then written ++ [unboundedUpper] else written

/-- Whether the version lies above the lower bound. -/
def clears (version : Text) (lower : Bound) : Except VersionError Bool :=
  if lower.value = "" then .ok true
  else do
    let relation ← compare version lower.value
    return relation == .gt || (relation == .eq && lower.closed)

/-- Whether the version lies below the upper bound. -/
def staysUnder (version : Text) (upper : Bound) : Except VersionError Bool :=
  if upper.value = "" then .ok true
  else do
    let relation ← compare version upper.value
    return relation == .lt || (relation == .eq && upper.closed)

/-- Whether the version lies between the first two bounds. The upper bound is
not looked at when the version is below the lower one. -/
def within (version : Text) : List Bound → Except VersionError Bool
  | lower :: upper :: _ => do
    if ← clears version lower then staysUnder version upper else return false
  | _ => .error .missingBound

/-- Whether the version meets the requirement. -/
def satisfies (version requirement : Text) : Except VersionError Bool :=
  match requirement.toList with
  | .char '!' :: head => .ok (!head.isPrefixOf version.toList)
  | text =>
    if isRange requirement then within version (bounds requirement)
    else .ok (text.isPrefixOf version.toList)

example : satisfies "11.0.2" "[1.8, 12)" = .ok true := by cbv
example : satisfies "17-ea" "[11,)" = .error (.nonNumeric "17-ea") := by cbv

end Version

end BuildProfiles
