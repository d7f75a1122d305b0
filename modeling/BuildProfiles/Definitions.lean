/-
Profile definitions: documents that declare build profiles.

A document is an object whose `profiles` are a list of declarations. `parse`
makes the profiles of a document that has no violation of the schema; `load`
reads the document from a file first. Every profile is located by its source
and its position in the list.
-/
import BuildProfiles.Definitions.Schema
import BuildProfiles.FileEntry
import BuildProfiles.Json.Reader
import BuildProfiles.Log
import BuildProfiles.Path
import BuildProfiles.Profile
import BuildProfiles.Text.Lines
import BuildProfiles.Text.Utf8

namespace BuildProfiles

/-- Why definitions cannot be had. -/
inductive DefinitionCause where
  | notFound
  | malformed (cause : Json.Cause) (position : Json.Position)
  | undecodable (error : Text.Utf8.Error)
  | unreadable (code : Nat) (reason : Text)
  /-- The document violates the schema: the first violation, and the others. -/
  | invalid (first : Violation) (others : List Violation)

/-- Definitions that cannot be had, and where they were looked for. -/
structure DefinitionError where
  path : Text
  cause : DefinitionCause

inductive LoadError where
  | definitions (error : DefinitionError)
  /-- A whole number in the document has more digits than are read. -/
  | oversized (digits : Nat)
  /-- No file can have the path. -/
  | nameTooLong (path : Text)

namespace DefinitionError

/-- One line for each violation of the schema. -/
def details (error : DefinitionError) : List Text :=
  match error.cause with
  | .invalid first others => (first :: others).map (·.detail)
  | _ => []

def message (error : DefinitionError) : Text :=
  let path := error.path
  match error.cause with
  | .notFound => "Profile definitions not found: " ++ path
  | .malformed cause position =>
    "Invalid JSON in profile definitions " ++ path ++ ": "
      ++ (Json.ReadError.malformed cause position).message
  | .undecodable error => "Profile definitions " ++ path ++ " are not valid UTF-8: " ++ error.message
  | .unreadable code reason =>
    "Cannot read profile definitions " ++ path ++ ": [Errno " ++ toString code ++ "] " ++ reason
      ++ ": " ++ Text.quoted path
  | .invalid first _ => "Profile definitions in " ++ path ++ " failed validation: " ++ first.detail

end DefinitionError

def LoadError.message : LoadError → Text
  | .definitions error => error.message
  | .oversized digits => (Json.ReadError.oversized digits).message
  | .nameTooLong path => "[Errno 36] File name too long: " ++ Text.quoted path

/-- What loads definitions. -/
structure Loader where
  validator : Validator
  /-- The source of the profiles that do not name one. -/
  defaultSource : Text

namespace Definitions

def propertySchema : Schema :=
  .record [] true [("name", .text false), ("value", .text false)]

def activationSchema : Schema :=
  .record [] true [("activeByDefault", .flag), ("property", propertySchema), ("jdk", .text false)]

def profileSchema : Schema :=
  .record ["id"] true [("id", .text true), ("source", .text true), ("activation", activationSchema)]

/-- The schema of a document. Other members than the profiles are let pass. -/
def schema : Schema := .record ["profiles"] false [("profiles", .list profileSchema)]

def violations (validator : Validator) (document : Json.Value) : List Violation :=
  Violation.sorted (validator.violations schema document)

def condition (written : Json.Value) : PropertyCondition where
  name := (written.member? "name").bind (·.text?)
  value := (written.member? "value").bind (·.text?)

def activation (written : Json.Value) : Activation where
  activeByDefault := ((written.member? "activeByDefault").bind (·.bool?)).getD false
  property := (written.member? "property").map condition
  jdk := (written.member? "jdk").bind (·.text?)

def profile (defaultSource sourceName : Text) (written : Json.Value) (position : Nat) : Profile where
  id := ((written.member? "id").bind (·.text?)).getD ""
  source := ((written.member? "source").bind (·.text?)).getD defaultSource
  activation := (written.member? "activation").map activation
  location := some { source := some sourceName, index := some position }

def parse (loader : Loader) (sourceName : Text) (document : Json.Value) :
    Except DefinitionError (List Profile) :=
  match violations loader.validator document with
  | first :: others => .error ⟨sourceName, .invalid first others⟩
  | [] =>
    let written := ((document.member? "profiles").bind (·.items?)).getD []
    .ok (written.zipIdx.map fun (entry, position) => profile loader.defaultSource sourceName entry position)

def document (path : Text) (octets : List UInt8) : Except LoadError Json.Value :=
  match Text.Utf8.decode octets with
  | .error error => .error (.definitions ⟨path, .undecodable error⟩)
  | .ok text =>
    match Json.read (Text.unifyLineEnds text) with
    | .ok value => .ok value
    | .error (.malformed cause position) => .error (.definitions ⟨path, .malformed cause position⟩)
    | .error (.oversized digits) => .error (.oversized digits)

/-- The profiles of the document at the path where `entry` stands. -/
def load (loader : Loader) (path : Path) (entry : FileEntry) :
    Except LoadError (List Profile) :=
  match entry with
  | .missing => .error (.definitions ⟨path.text, .notFound⟩)
  | .unreadable code reason => .error (.definitions ⟨path.text, .unreadable code reason⟩)
  | .nameTooLong => .error (.nameTooLong path.text)
  | .file octets => do
    let value ← document path.text octets
    (parse loader path.text value).mapError .definitions

/-- What the log says of the profiles that a source gave. -/
def record (sourceName : Text) (profiles : List Profile) : Log.Record where
  level := .debug
  logger := "profile_activation.adapters.profiles.json_profile_loader"
  text := "Loaded " ++ toString profiles.length ++ " profile(s) from " ++ sourceName

end Definitions

end BuildProfiles
