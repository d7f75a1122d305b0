/-
What stands at a path, as a reader of files meets it.
-/
namespace BuildProfiles

inductive FileEntry where
  | missing
  | file (octets : List UInt8)
  /-- Something that cannot be read as a file, with the code and the name of the reason. -/
  | unreadable (code : Nat) (reason : String)
  /-- Nothing can stand there: the path or one of its names is too long. -/
  | nameTooLong
  deriving DecidableEq, Repr

/-- A directory is not read as a file. -/
def FileEntry.directory : FileEntry := .unreadable 21 "Is a directory"

end BuildProfiles
