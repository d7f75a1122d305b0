/-
The command line: from its words to what is printed and how the program ends.

The settings are read first, then the words; then logging is set up, then the
profiles are loaded and resolved. What comes out is one line of JSON with the
ids of the active profiles and the problems.
-/
import BuildProfiles.CommandLine.Selection
import BuildProfiles.CommandLine.Usage
import BuildProfiles.Definitions
import BuildProfiles.Host
import BuildProfiles.Json.Writer
import BuildProfiles.Resolution

namespace BuildProfiles

def Problem.report (problem : Problem) : Json.Value :=
  let optional (text : Option Text) : Json.Value := (text.map Json.Value.text).getD .null
  .object [
    ("severity", .text problem.severity.name),
    ("version", .text problem.version.name),
    ("message", .text problem.message),
    ("location", optional (problem.location.map Location.text)),
    ("exception", optional (problem.failure.map Failure.inspect))]

namespace CommandLine

inductive Ending where
  | exit (code : Nat)
  /-- Logging knows no such level. -/
  | unknownLevel (name : Text)
  /-- A whole number in the definitions has more digits than are read. -/
  | oversized (digits : Nat)
  /-- No file can have the path of the definitions. -/
  | nameTooLong (path : Text)
  /-- A selection was left without its text. -/
  | selectionMissing
  /-- A definition was left without its text. -/
  | definitionMissing
  deriving DecidableEq, Repr

/-- What a run of the program comes to. -/
structure Outcome where
  ending : Ending
  output : String := ""
  errors : Text := ""
  deriving DecidableEq, Repr

def Ending.message : Ending → Text
  | .exit _ => ""
  | .unknownLevel name => "Unknown level: " ++ Text.quoted name
  | .oversized digits => (LoadError.oversized digits).message
  | .nameTooLong path => (LoadError.nameTooLong path).message
  | .selectionMissing => "'list' object has no attribute 'split'"
  | .definitionMissing => "'list' object has no attribute 'partition'"

/-- The levels that logging can be set to, with the least rank that passes. -/
def thresholds : List (Text × Nat) :=
  [("CRITICAL", 50), ("FATAL", 50), ("ERROR", 40), ("WARN", 30), ("WARNING", 30), ("INFO", 20),
   ("DEBUG", 10), ("NOTSET", 0)]

/-- The name of the level that is asked for: the one given, else the one set. -/
def levelName (given : Option Text) (settings : Settings) : Text :=
  Text.upper ((Text.ifFilled given).getD settings.logLevel)

/-- The text with a line feed at its end, which it may already have. -/
def closed (text : Text) : Text :=
  if text.toList.getLast? = some (.char '\n') then text else text ++ "\n"

/-- What is printed of a record. A failure has a line of its own. -/
def logLine (clock : Text) (record : Log.Record) : Text :=
  let line := clock ++ " [" ++ record.level.name ++ "] " ++ record.logger ++ " - " ++ record.text
  match record.failure with
  | none => line ++ "\n"
  | some failure => closed line ++ "TRACEBACK " ++ failure.inspect ++ "\n"

def logText (clock : Text) (threshold : Nat) (records : List Log.Record) : Text :=
  Text.join ((records.filter fun record => threshold ≤ record.level.rank).map (logLine clock))

/-- The directory of the project: the one given, else the one of the definitions. -/
def projectDirectory (host : Host) (given : Option Text) (profilesFile : Text) : Path :=
  (given.bind Context.directory?).getD
    (host.resolve (.ofText profilesFile)).parent

/-- The texts that an option is given, where it is never left without one. -/
def texts (missing : Ending) (values : List (Option Text)) : Except Ending (List Text) :=
  if none ∈ values then .error missing else .ok (values.filterMap id)

def context (host : Host) (settings : Settings) (arguments : ResolveArguments)
    (profilesFile : Text) : Except Ending Context := do
  let selection := Selection.parse (← texts .selectionMissing arguments.selections)
  let definitions ← texts .definitionMissing arguments.definitions
  return {
    activeIds := selection.active
    inactiveIds := selection.inactive
    systemProperties := host.systemProperties settings
    userProperties := .parse definitions
    projectDirectory := some (projectDirectory host arguments.projectDirectory profilesFile) }

def result (active : List Placed) (problems : List Problem) : Json.Value :=
  .object [
    ("active_profiles", .array ((Resolution.ids active).map .text)),
    ("problems", .array (problems.map Problem.report))]

def refusal (error : DefinitionError) : Text :=
  "ERROR: " ++ error.message ++ "\n"
    ++ Text.join ((error.details.drop 1).map fun detail => "  " ++ detail ++ "\n")

def resolveProfiles (host : Host) (threshold : Nat) (context : Context) (sourceName : Text)
    (profiles : List Profile) : Outcome :=
  let resolution := Selector.standard.resolve profiles context
  let records := Definitions.record sourceName profiles :: resolution.events.filterMap Event.record?
  let active := match resolution.result with
    | .ok active => active
    | .error _ => []
  { ending := .exit 0
    output := (result active (resolution.events.filterMap Event.problem?)).written ++ "\n"
    errors := logText host.clock threshold records }

/-- The command, once logging is set up. -/
def runResolve (validator : Validator) (host : Host) (settings : Settings) (threshold : Nat)
    (arguments : ResolveArguments) : Outcome :=
  match Text.ifFilled (arguments.profiles.or settings.profilesFile) with
  | none => { ending := .exit 2, errors := Misuse.profilesMissing.report .program }
  | some profilesFile =>
    let path := Path.ofText profilesFile
    match Definitions.load ⟨validator, pomSource⟩ path (host.entry path) with
    | .error (.oversized digits) => { ending := .oversized digits }
    | .error (.nameTooLong path) => { ending := .nameTooLong path }
    | .error (.definitions error) => { ending := .exit 1, errors := refusal error }
    | .ok profiles =>
      match context host settings arguments profilesFile with
      | .error ending =>
        { ending, errors := logText host.clock threshold [Definitions.record path.text profiles] }
      | .ok context => resolveProfiles host threshold context path.text profiles

/-- Sets up logging, and goes on if there is such a level. -/
def withLogging (settings : Settings) (given : Option Text) (next : Nat → Outcome) : Outcome :=
  let name := levelName given settings
  match thresholds.lookup name with
  | some threshold => next threshold
  | none => { ending := .unknownLevel name }

def run (validator : Validator) (host : Host) (words : List Text) : Outcome :=
  let settings := Settings.ofEnvironment host.environment
  match Invocation.ofWords words with
  | .help topic => { ending := .exit 0, output := topic.help }
  | .misuse topic misuse => { ending := .exit 2, errors := misuse.report topic }
  | .idle logLevel =>
    withLogging settings logLevel fun _ => { ending := .exit 0, output := Topic.help .program }
  | .resolve logLevel arguments =>
    withLogging settings logLevel fun threshold => runResolve validator host settings threshold arguments

/-- The file that a run of the program reads, if it comes to that. -/
def profilesFile? (environment : Properties) (words : List Text) : Option Path :=
  match Invocation.ofWords words with
  | .resolve _ arguments =>
    let settings := Settings.ofEnvironment environment
    (Text.ifFilled (arguments.profiles.or settings.profilesFile)).map Path.ofText
  | _ => none

end CommandLine

end BuildProfiles
