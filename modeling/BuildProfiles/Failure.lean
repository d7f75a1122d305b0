/-
What may stop an activator or an interpolator.

A failure is a version that cannot be judged or one that a caller's own
activator or interpolator raises. Reports show it by its name and its detail.
-/
import BuildProfiles.Text.Quoted
import BuildProfiles.Version

namespace BuildProfiles

/-- The kinds of failure that callers raise. -/
inductive Failure.Kind where
  | runtime
  | value
  | key
  /-- Any other kind, by the name that reports give to it. -/
  | other (name : Text)
  deriving DecidableEq, Repr

/-- Why an activator or an interpolator gave no answer. -/
inductive Failure where
  | version (error : VersionError)
  | raised (kind : Failure.Kind) (detail : Option Text)
  deriving DecidableEq, Repr

namespace Failure

/-- The name that reports give to the kind of failure. -/
def name : Failure → Text
  | .version (.nonNumeric _) => "VersionRangeError"
  | .version .missingBound => "IndexError"
  | .raised .runtime _ => "RuntimeError"
  | .raised .value _ => "ValueError"
  | .raised .key _ => "KeyError"
  | .raised (.other name) _ => name

def detail? : Failure → Option Text
  | .version error => some error.message
  | .raised _ detail => detail

/-- The failure in one line: its name, and its detail quoted. -/
def inspect (failure : Failure) : Text :=
  failure.name ++ "(" ++ (failure.detail?.map Text.quoted).getD "" ++ ")"

/-- The bare message. A missing key is quoted even here. -/
def message : Failure → Text
  | .raised .key (some key) => Text.quoted key
  | failure => failure.detail?.getD ""

end Failure

end BuildProfiles
