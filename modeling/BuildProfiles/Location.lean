/-
Where a profile was declared, for messages.
-/
import BuildProfiles.Text

namespace BuildProfiles

/-- A place in a source; every part may be unknown. -/
structure Location where
  source : Option Text := none
  line : Option Int := none
  column : Option Int := none
  /-- The position of the profile among those of its source. -/
  index : Option Int := none
  deriving DecidableEq, Repr

/-- The known parts, from the source to the position. A source without a name
counts as unknown. -/
def Location.text (location : Location) : Text :=
  let source : Text := (Text.ifFilled location.source).getD "<unknown>"
  let part (label : Text) (number : Option Int) : List Text :=
    number.toList.map fun n => label ++ toString n
  Text.intercalate ", " <|
    [source] ++ part "line " location.line ++ part "column " location.column
      ++ part "profile #" location.index

example : Location.text { line := some 3, index := some 0 } = "<unknown>, line 3, profile #0" := by
  decide +kernel

end BuildProfiles
