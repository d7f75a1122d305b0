/-
Sessions: one selector, one collector and one list of profiles, worked with
step by step.

The profiles are objects that stay from one step to the next, and a resolution
works on these.
-/
import BuildProfiles.Definitions
import BuildProfiles.Resolution

namespace BuildProfiles

/-- What lives through a session. -/
structure Session where
  selector : Selector
  collector : Collector := {}
  objects : Objects := {}

namespace Session

/-- The profiles as they stand. -/
def profiles (session : Session) : List Profile := session.objects.view

inductive Step where
  /-- Registers an activator behind the others; nothing is registered for `none`. -/
  | addActivator (activator : Option Activator)
  | setInterpolator (interpolator : Interpolator)
  /-- Replaces the list. Its profiles may share what they refer to. -/
  | setProfiles (objects : Objects)
  /-- Replaces the list by the profiles of a document. -/
  | parse (loader : Loader) (document : Json.Value)
  | resolve (context : Context)
  | addProblem (draft : Problem.Draft)

inductive Answer where
  | activators (count : Nat)
  | done
  | profiles (count : Nat)
  | active (placed : List Placed)
  | definitionsRefused (error : DefinitionError)
  | resolutionFailed (failure : Failure)
  | problemRefused (error : UnknownName)

/-- A step taken: the session after it, its answer, and what happened. -/
structure Outcome where
  session : Session
  answer : Answer
  events : List Event := []

/-- The name of a document that is given and not read from a file. -/
def inlineName : Text := "<inline>"

def step (session : Session) : Step → Outcome
  | .addActivator activator =>
    let activators := session.selector.activators ++ activator.toList
    ⟨{ session with selector := { session.selector with activators } },
      .activators activators.length, []⟩
  | .setInterpolator interpolator =>
    ⟨{ session with selector := { session.selector with interpolator } }, .done, []⟩
  | .setProfiles objects => ⟨{ session with objects }, .profiles objects.profiles.length, []⟩
  | .parse loader document =>
    match Definitions.parse loader inlineName document with
    | .error error => ⟨session, .definitionsRefused error, []⟩
    | .ok profiles =>
      ⟨{ session with objects := .ofProfiles profiles }, .profiles profiles.length,
        [.logged (Definitions.record inlineName profiles)]⟩
  | .resolve context =>
    let (outcome, objects) := session.selector.resolveOn session.objects context
    let collector := session.collector.addAll (outcome.events.filterMap Event.problem?)
    ⟨{ session with collector, objects },
      match outcome.result with
      | .ok placed => .active placed
      | .error failure => .resolutionFailed failure,
      outcome.events⟩
  | .addProblem draft =>
    match Problem.ofDraft draft with
    | .error error => ⟨session, .problemRefused error, []⟩
    | .ok problem =>
      ⟨{ session with collector := session.collector.add problem }, .done, [.reported problem]⟩

/-- The steps in turn, each on the session that the one before it left. -/
def run (session : Session) : List Step → List Outcome
  | [] => []
  | next :: steps =>
    let outcome := session.step next
    outcome :: outcome.session.run steps

end Session

end BuildProfiles
