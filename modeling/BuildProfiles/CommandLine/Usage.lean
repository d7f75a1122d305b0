/-
The commands, their options, and the texts that explain them.
-/
import BuildProfiles.CommandLine.Options

namespace BuildProfiles.CommandLine

inductive Topic where
  | program
  | resolve
  deriving DecidableEq, Repr

inductive ProgramOption where
  | logLevel
  deriving DecidableEq, Repr

inductive ResolveOption where
  | profiles
  | selection
  | definition
  | projectDirectory
  deriving DecidableEq, Repr

def helpFlag {α : Type} : Flag α := ⟨["-h", "--help"], none⟩

def programFlags : List (Flag ProgramOption) := [helpFlag, ⟨["--log-level"], some .logLevel⟩]

def resolveFlags : List (Flag ResolveOption) :=
  [helpFlag, ⟨["--profiles"], some .profiles⟩,
   ⟨["-P", "--activate-profiles"], some .selection⟩,
   ⟨["-D", "--define"], some .definition⟩,
   ⟨["--project-dir"], some .projectDirectory⟩]

def programName : String := "profile-activation"

def resolveName : Text := "resolve"

namespace Topic

def name : Topic → Text
  | .program => programName
  | .resolve => programName ++ " " ++ resolveName

def usage : Topic → String
  | .program => "usage: profile-activation [-h] [--log-level LOG_LEVEL] \x7bresolve\x7d ...\n"
  | .resolve =>
    "usage: profile-activation resolve [-h] [--profiles PROFILES_FILE]\n"
      ++ "                                  [-P PROFILE_SELECTION] [-D USER_PROPERTIES]\n"
      ++ "                                  [--project-dir PROJECT_DIR]\n"

def help : Topic → String
  | .program =>
    usage .program
      ++ "\nBuild profile activation CLI\n"
      ++ "\npositional arguments:\n"
      ++ "  \x7bresolve\x7d\n"
      ++ "    resolve             Resolve the active profiles\n"
      ++ "\noptions:\n"
      ++ "  -h, --help            show this help message and exit\n"
      ++ "  --log-level LOG_LEVEL\n"
  | .resolve =>
    usage .resolve
      ++ "\noptions:\n"
      ++ "  -h, --help            show this help message and exit\n"
      ++ "  --profiles PROFILES_FILE\n"
      ++ "  -P PROFILE_SELECTION, --activate-profiles PROFILE_SELECTION\n"
      ++ "  -D USER_PROPERTIES, --define USER_PROPERTIES\n"
      ++ "  --project-dir PROJECT_DIR\n"

end Topic

def Misuse.message : Misuse → Text
  | .ambiguous word names =>
    "ambiguous option: " ++ word ++ " could match " ++ Text.intercalate ", " names
  | .valueMissing names => "argument " ++ Text.intercalate "/" names ++ ": expected one argument"
  | .valueIgnored names value =>
    "argument " ++ Text.intercalate "/" names ++ ": ignored explicit argument " ++ Text.quoted value
  | .unknownCommand word =>
    "argument command: invalid choice: " ++ Text.quoted word ++ " (choose from "
      ++ Text.quoted resolveName ++ ")"
  | .unrecognized words => "unrecognized arguments: " ++ Text.intercalate " " words
  | .profilesMissing => "--profiles is required when PROFILES_FILE is not set"

def Misuse.report (misuse : Misuse) (topic : Topic) : Text :=
  topic.usage ++ topic.name ++ ": error: " ++ misuse.message ++ "\n"

/-! ## Reading a command line -/

/-- What the command is told. A selection or a definition may have been left
without its text. -/
structure ResolveArguments where
  profiles : Option Text
  selections : List (Option Text)
  definitions : List (Option Text)
  projectDirectory : Option Text
  deriving DecidableEq, Repr

inductive Invocation where
  | help (topic : Topic)
  | misuse (topic : Topic) (misuse : Misuse)
  /-- No command, with the log level given. -/
  | idle (logLevel : Option Text)
  | resolve (logLevel : Option Text) (arguments : ResolveArguments)
  deriving DecidableEq, Repr

/-- What a halt asks for, if it comes up with a topic. -/
def Halt.invocation (topic : Topic) : Halt → Invocation
  | .help => .help topic
  | .misuse fault => .misuse topic fault

/-- The options that the words give, and the words that belong to nothing. -/
def readFlags {α : Type} (flags : List (Flag α)) (stopAtOperand : Bool) (words : List Text) :
    Except Halt (Reading α) :=
  let table := nameTable flags
  match classifyAll table words with
  | .error misuse => .error (.misuse misuse)
  | .ok words => readWords table stopAtOperand words

/-- What the words of the command tell it. -/
def ResolveArguments.ofReading (reading : Reading ResolveOption) : ResolveArguments where
  profiles := reading.last? .profiles
  selections := reading.all .selection
  definitions := reading.all .definition
  projectDirectory := reading.last? .projectDirectory

/-- What is left over makes the command line a misuse of the program. -/
def refuseExtras (extras : List Text) (invocation : Invocation) : Invocation :=
  if extras.isEmpty then invocation else .misuse .program (.unrecognized extras)

/-- The word behind which the command's own words stand, as the line has them. -/
def commandWords (words : List Text) (operands : Nat) : List Text :=
  words.drop (words.length - operands)

/-- What the command line asks for. The program's own options end at the first
operand, which names the command; all that follows belongs to the command. -/
def Invocation.ofWords (words : List Text) : Invocation :=
  match readFlags programFlags true words with
  | .error halt => halt.invocation .program
  | .ok reading =>
    let logLevel := reading.last? .logLevel
    match commandWords words reading.operands.length with
    | [] => refuseExtras reading.extras (.idle logLevel)
    | command :: own =>
      if command = "--" ∧ own = [] then .misuse .program (.unrecognized (reading.extras ++ [command]))
      else if command ≠ resolveName then .misuse .program (.unknownCommand command)
      else match readFlags resolveFlags false own with
        | .error halt => halt.invocation .resolve
        | .ok ownReading =>
          refuseExtras (reading.extras ++ ownReading.extras)
            (.resolve logLevel (.ofReading ownReading))

end BuildProfiles.CommandLine
