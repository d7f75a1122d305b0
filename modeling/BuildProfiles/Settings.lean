/-
Settings out of the environment.
-/
import BuildProfiles.Properties
import BuildProfiles.Text.Case

namespace BuildProfiles

structure Settings where
  logLevel : Text
  profilesFile : Option Text
  /-- Whether the variables of the environment are system properties as well. -/
  exposeEnvironment : Bool
  deriving DecidableEq, Repr

namespace Settings

/-- The texts that mean yes, in any case of letters. -/
def affirmations : List Text := ["true", "1", "yes"]

def ofEnvironment (environment : Properties) : Settings where
  logLevel := (environment.get? "LOG_LEVEL").getD "WARNING"
  profilesFile := environment.get? "PROFILES_FILE"
  exposeEnvironment :=
    affirmations.contains (Text.lower ((environment.get? "EXPOSE_ENVIRONMENT").getD "true"))

end Settings

end BuildProfiles
