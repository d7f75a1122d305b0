/-
Log records.
-/
import BuildProfiles.Failure

namespace BuildProfiles

inductive Log.Level where
  | debug
  | info
  | warning
  | error
  | critical
  deriving DecidableEq, Repr

namespace Log.Level

def name : Level → Text
  | .debug => "DEBUG"
  | .info => "INFO"
  | .warning => "WARNING"
  | .error => "ERROR"
  | .critical => "CRITICAL"

/-- Records pass a threshold that their rank reaches. -/
def rank : Level → Nat
  | .debug => 10
  | .info => 20
  | .warning => 30
  | .error => 40
  | .critical => 50

end Log.Level

structure Log.Record where
  level : Log.Level
  logger : Text
  text : Text
  /-- The failure that the record is about, where it shows one. -/
  failure : Option Failure := none
  deriving DecidableEq, Repr

end BuildProfiles
