/-
Build profiles and the conditions that turn them on.
-/
import BuildProfiles.Location

namespace BuildProfiles

/-- A condition on one property. Either text may open with `!`, which negates it. -/
structure PropertyCondition where
  name : Option Text := none
  value : Option Text := none
  deriving DecidableEq, Repr

/-- What turns a profile on. -/
structure Activation where
  activeByDefault : Bool := false
  property : Option PropertyCondition := none
  jdk : Option Text := none
  deriving DecidableEq, Repr

/-- The source of the profiles that the project itself declares. -/
def pomSource : Text := "pom"

/-- A named variation of the build. -/
structure Profile where
  id : Text
  source : Text := pomSource
  activation : Option Activation := none
  location : Option Location := none
  deriving DecidableEq, Repr

namespace Profile

/-- Whether the project itself declares the profile. -/
def isPom (profile : Profile) : Bool := profile.source == pomSource

def isDefault (profile : Profile) : Bool := profile.activation.any (·.activeByDefault)

def property? (profile : Profile) : Option PropertyCondition := profile.activation.bind (·.property)

def jdk? (profile : Profile) : Option Text := profile.activation.bind (·.jdk)

end Profile

end BuildProfiles
