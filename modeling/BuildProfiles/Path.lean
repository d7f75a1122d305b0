/-
File paths as text.

A path is a root and the names below it. Reading drops empty names and `.`
and keeps `..`; exactly two slashes in front are a root of their own.
-/
import BuildProfiles.Text

namespace BuildProfiles

/-- What stands in front of the names. -/
inductive Path.Root where
  | none
  | slash
  | doubleSlash
  deriving DecidableEq, Repr

/-- A root and the names below it. -/
structure Path where
  root : Path.Root
  names : List Text
  deriving DecidableEq, Repr

namespace Path

def Root.text : Root → Text
  | .none => ""
  | .slash => "/"
  | .doubleSlash => "//"

/-- The root that so many slashes in front of a path make. -/
def Root.ofSlashes : Nat → Root
  | 0 => .none
  | 2 => .doubleSlash
  | _ => .slash

def ofText (text : Text) : Path where
  root := .ofSlashes (text.toList.takeWhile (· == .char '/')).length
  names := ((text.toList.splitOn (.char '/')).map Text.ofList).filter fun name => name != "" && name != "."

/-- The path as it is written. The empty path is the place itself. -/
def text (path : Path) : Text :=
  if path.root = .none ∧ path.names = [] then "."
  else path.root.text ++ Text.intercalate "/" path.names

def parent (path : Path) : Path := { path with names := path.names.dropLast }

/-- One name further down from a place without detours, or one up for `..`.
There is nothing above a root. -/
def enter (path : Path) (name : Text) : Path :=
  let below : Path := { path with names := path.names ++ [name] }
  if name ≠ ".." then below
  else match path.names.getLast? with
    | none => if path.root = .none then below else path
    | some last => if last = ".." then below else path.parent

/-- The path seen from `base`, with every `..` carried out. -/
def resolveAgainst (path base : Path) : Path :=
  let start := if path.root = .none then base else path
  let names := if path.root = .none then base.names ++ path.names else path.names
  names.foldl enter ⟨start.root, []⟩

example : (ofText "/a//b/./c/").text = "/a/b/c" := by decide +kernel
example : ((ofText "x/../p").resolveAgainst (ofText "/w")).text = "/w/p" := by decide +kernel

end Path

end BuildProfiles
