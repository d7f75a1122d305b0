/-
Problems found in profiles, and the collector that keeps them.

The collector appends and forgets nothing; its errors are the problems that
are not mere warnings, in the order in which they came.
-/
import BuildProfiles.Location
import BuildProfiles.Log

namespace BuildProfiles

inductive Severity where
  | fatal
  | error
  | warning
  deriving DecidableEq, Repr

namespace Severity

def name : Severity → Text
  | .fatal => "FATAL"
  | .error => "ERROR"
  | .warning => "WARNING"

def all : List Severity := [.fatal, .error, .warning]

def ofName? (name : Text) : Option Severity := all.find? (·.name == name)

def level : Severity → Log.Level
  | .fatal => .critical
  | .error => .error
  | .warning => .warning

end Severity

/-- The version of the model from which on a problem is reported. -/
inductive ModelVersion where
  | base
  | v20
  | v30
  | v31
  deriving DecidableEq, Repr

namespace ModelVersion

def name : ModelVersion → Text
  | .base => "BASE"
  | .v20 => "V20"
  | .v30 => "V30"
  | .v31 => "V31"

def all : List ModelVersion := [.base, .v20, .v30, .v31]

def ofName? (name : Text) : Option ModelVersion := all.find? (·.name == name)

end ModelVersion

/-- A problem with a profile. -/
structure Problem where
  severity : Severity
  version : ModelVersion
  message : Text
  location : Option Location := none
  /-- The failure that gave rise to the problem. -/
  failure : Option Failure := none
  deriving DecidableEq, Repr

/-- A written name that names no severity, or no model version. -/
inductive UnknownName where
  | severity (written : Text)
  | version (written : Text)
  deriving DecidableEq, Repr

def UnknownName.message : UnknownName → Text
  | .severity written => Text.quoted written ++ " is not a valid Severity"
  | .version written => Text.quoted written ++ " is not a valid ModelVersion"

/-- A problem whose severity and model version are still written names. -/
structure Problem.Draft where
  severity : Text
  version : Text
  message : Text
  location : Option Location := none
  failure : Option Failure := none
  deriving DecidableEq, Repr

/-- The problem that a draft describes. The severity is read first. -/
def Problem.ofDraft (draft : Problem.Draft) : Except UnknownName Problem :=
  match Severity.ofName? draft.severity, ModelVersion.ofName? draft.version with
  | none, _ => .error (.severity draft.severity)
  | some _, none => .error (.version draft.version)
  | some severity, some version =>
    .ok { severity, version, message := draft.message, location := draft.location,
          failure := draft.failure }

def Problem.record (problem : Problem) : Log.Record where
  level := problem.severity.level
  logger := "profile_activation.adapters.problems.list_problem_collector"
  text := problem.message ++ (problem.location.map fun l => (" @ " ++ l.text : Text)).getD ""

/-- Whether the problem is more than a warning. -/
def Problem.isError (problem : Problem) : Bool := problem.severity != .warning

/-- The problems reported so far, in order. -/
structure Collector where
  problems : List Problem := []
  deriving DecidableEq, Repr

namespace Collector

def add (collector : Collector) (problem : Problem) : Collector := ⟨collector.problems ++ [problem]⟩

def addAll (collector : Collector) (problems : List Problem) : Collector :=
  ⟨collector.problems ++ problems⟩

def errors (collector : Collector) : List Problem := collector.problems.filter (·.isError)

def hasErrors (collector : Collector) : Bool := collector.problems.any (·.isError)

end Collector

end BuildProfiles
