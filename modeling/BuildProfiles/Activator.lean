/-
Activators: what decides whether one kind of condition holds.

An activator answers two questions about a profile in a context: whether the
profile has a condition of its kind, and whether that condition holds. It may
report problems before it answers, and it may fail instead of answering.
-/
import BuildProfiles.Context
import BuildProfiles.Problem
import BuildProfiles.Profile
import BuildProfiles.Version.Requirement

namespace BuildProfiles

inductive Question where
  | present
  | active
  deriving DecidableEq, Repr

/-- What an activator says to a question. -/
structure Reply where
  /-- The problems reported before the answer. -/
  problems : List Problem := []
  answer : Except Failure Bool

/-- Judges one kind of condition. -/
structure Activator where
  reply : Question → Profile → Context → Reply

def Profile.problem (profile : Profile) (message : Text) : Problem where
  severity := .error
  version := .base
  message := message
  location := profile.location

/-- The text without the `!` in front of it, and whether there was one. -/
def negation (text : Text) : Bool × Text :=
  match text.toList with
  | .char '!' :: rest => (true, Text.ofList rest)
  | _ => (false, text)

/-- Whether a condition on a property holds. With a value, the property must
have it, or with `!` must not; without, the property must be set and not
empty, or with `!` in front of its name must not. -/
def PropertyCondition.holds (condition : PropertyCondition) (name : Text) (negated : Bool)
    (context : Context) : Bool :=
  let actual := context.property? name
  let value := condition.value.getD ""
  if value = "" then (actual.any fun (text : Text) => text != "") != negated
  else
    let (negated, expected) := negation value
    (actual == some expected) != negated

namespace Activator

def property : Activator where
  reply
    | .present, profile, _ => { answer := .ok profile.property?.isSome }
    | .active, profile, context =>
      match profile.property? with
      | none => { answer := .ok false }
      | some condition =>
        let (negated, name) := negation (condition.name.getD "")
        if name = "" then
          { problems := [profile.problem
              ("The property name is required to activate the profile " ++ profile.id)]
            answer := .ok false }
        else { answer := .ok (condition.holds name negated context) }

/-- The system property that holds the version of the JDK. -/
def jdkVersionName : Text := "java.version"

def jdk : Activator where
  reply
    | .present, profile, _ => { answer := .ok profile.jdk?.isSome }
    | .active, profile, context =>
      match profile.jdk? with
      | none => { answer := .ok false }
      | some requirement =>
        let version := (context.systemProperties.get? jdkVersionName).getD ""
        if version = "" then
          { problems := [profile.problem ("Failed to determine Java version for profile " ++ profile.id)]
            answer := .ok false }
        else { answer := (Version.satisfies version requirement).mapError .version }

/-- The activators that every build has, in the order in which they are asked. -/
def standard : List Activator := [property, jdk]

end Activator

end BuildProfiles
