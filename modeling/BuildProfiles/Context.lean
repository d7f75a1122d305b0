/-
What the caller of a resolution knows: the selected and the deselected ids,
the properties, and the directory of the project.
-/
import BuildProfiles.Path
import BuildProfiles.Properties

namespace BuildProfiles

/-- The input of a resolution, apart from the profiles. -/
structure Context where
  activeIds : List Text := []
  inactiveIds : List Text := []
  systemProperties : Properties := .empty
  userProperties : Properties := .empty
  projectDirectory : Option Path := none
  deriving DecidableEq

namespace Context

/-- The value of a property; those of the user come first. -/
def property? (context : Context) (name : Text) : Option Text :=
  (context.userProperties.get? name).or (context.systemProperties.get? name)

/-- The directory that a text names; the empty text names none. -/
def directory? (text : Text) : Option Path :=
  if text = "" then none else some (.ofText text)

end Context

end BuildProfiles
