/-
The program: the facts about this machine, one run, and its output.
-/
import BuildProfiles.CommandLine
import BuildProfiles.Definitions.Validation

open BuildProfiles

/-- The text of a file that the system provides, or nothing. -/
def systemFact (path : String) : IO Text := do
  try return (← IO.FS.readFile path).trimAscii.toString
  catch _ => return ""

def environmentVariables : IO Properties := do
  let octets ← try IO.FS.readBinFile "/proc/self/environ" catch _ => pure ByteArray.empty
  let entries := octets.data.toList.splitOn 0
  let texts := entries.filterMap fun entry => (Text.Utf8.decode entry).toOption
  return .ofList <| texts.filterMap fun text =>
    match text.dropWhile (· != '=') with
    | _ :: value => some (String.ofList (text.takeWhile (· != '=')), String.ofList value)
    | [] => none

/-- What stands at the path on this machine. No file has half a surrogate pair in its path. -/
def entryAt (path : Path) : IO FileEntry := do
  let some text := path.text.string? | return .missing
  let place := (← IO.currentDir) / text
  try discard place.metadata
  catch
    | .invalidArgument .. => return .nameTooLong
    | _ => return .missing
  if ← place.isDir then return .directory
  try return .file (← IO.FS.readBinFile place).data.toList
  catch
    | .permissionDenied .. => return .unreadable 13 "Permission denied"
    | _ => return .unreadable 5 "Input/output error"

/-- Where the path leads. One that leads nowhere is taken as it is written. -/
def resolvedAt (path : Path) : IO Path := do
  let directory ← IO.currentDir
  try return .ofText (← IO.FS.realPath (directory / (path.text.string?.getD ""))).toString
  catch _ => return path.resolveAgainst (.ofText directory.toString)

/-- The text as it is shown, with the halves of surrogate pairs by number. -/
def shown (text : Text) : String :=
  String.ofList <| text.toList.flatMap fun
    | .char c => [c]
    | .surrogate n => '\\' :: 'u' :: Text.hex 4 (0xD800 + n)

def main (arguments : List String) : IO UInt32 := do
  let words := arguments.map Text.ofString
  let environment ← environmentVariables
  let path? := CommandLine.profilesFile? environment words
  let entry ← match path? with
    | some path => entryAt path
    | none => pure .missing
  let resolved ← match path? with
    | some path => resolvedAt path
    | none => pure (.ofText "")
  let host : Host := {
    environment
    system := ← systemFact "/proc/sys/kernel/ostype"
    machine := ← systemFact "/proc/sys/kernel/arch"
    release := ← systemFact "/proc/sys/kernel/osrelease"
    directory := (← IO.currentDir).toString
    entry := fun _ => entry
    resolve := fun _ => resolved
    clock := toString (← IO.monoMsNow) }
  let outcome := CommandLine.run .standard host words
  IO.print outcome.output
  IO.eprint (shown outcome.errors)
  match outcome.ending with
  | .exit code => return code.toUInt32
  | ending => do
    IO.eprintln (shown ending.message)
    return 1
