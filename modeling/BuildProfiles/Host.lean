/-
The machine that a build runs on, and what it says to the build.
-/
import BuildProfiles.FileEntry
import BuildProfiles.Path
import BuildProfiles.Settings

namespace BuildProfiles

/-- The facts about a machine that a build can see. -/
structure Host where
  environment : Properties
  system : Text
  machine : Text
  release : Text
  directory : Text
  entry : Path → FileEntry
  /-- Where a path leads from the directory, symbolic links followed. -/
  resolve : Path → Path
  /-- What the clock shows, as log lines write it. -/
  clock : Text

namespace Host

/-- The variables of the environment as system properties. -/
def exposed (environment : Properties) : List (Text × Text) :=
  environment.entries.map fun (name, value) => ("env." ++ name, value)

/-- The version of the JDK that the environment names, if it names one. -/
def javaVersion? (environment : Properties) : Option Text :=
  Text.ifFilled (environment.get? "JAVA_VERSION")

/-- What a build is told of the machine, whatever is exposed. -/
def facts (host : Host) : List (Text × Text) :=
  ("os.name", Text.lower host.system) :: ("os.arch", Text.lower host.machine) ::
    ("os.version", host.release) :: ("user.dir", host.directory) ::
      (javaVersion? host.environment).toList.map fun version => ("java.version", version)

def systemProperties (host : Host) (settings : Settings) : Properties :=
  .ofList (host.facts ++ if settings.exposeEnvironment then exposed host.environment else [])

end Host

end BuildProfiles
