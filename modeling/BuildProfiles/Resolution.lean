/-
Which profiles are active.

A profile that the context deselects is out. A profile that the context
selects is in, and so is one whose conditions hold after interpolation: no
activator fails on it, at least one has a condition to judge, and every one
that has says yes. A default profile comes in besides, where a default of the
project itself waits for the end and comes in only if no other profile of the
project was selected. If two profiles share an id, none is active.
-/
import BuildProfiles.Event

namespace BuildProfiles

/-- The activators, in the order in which they are asked, and the interpolator. -/
structure Selector where
  activators : List Activator := []
  interpolator : Interpolator := .passThrough

/-- How a resolution judges one profile. -/
inductive Verdict where
  /-- The context deselects it. -/
  | deactivated
  /-- The context selects it, or its conditions hold. -/
  | selected
  /-- Only its default flag speaks for it. -/
  | byDefault
  | inactive
  deriving DecidableEq, Repr

/-- A profile with its position in the list that was given. -/
abbrev Placed := Profile × Nat

namespace Resolution

def logger : Text := "profile_activation.application.profile_selector"

def remark (text : Text) : Log.Record := { level := .debug, logger := logger, text := text }

def ask (activator : Activator × Nat) (question : Question) (profile : Profile) (context : Context) :
    Traced Bool :=
  let reply := activator.1.reply question profile context
  ⟨.called ⟨activator.2, question, profile.id⟩ :: reply.problems.map .reported, reply.answer⟩

/-- Whether some activator has a condition to judge. All of them are asked. -/
def somePresent (profile : Profile) (context : Context) : List (Activator × Nat) → Traced Bool
  | [] => pure false
  | activator :: activators => do
    let here ← ask activator .present profile context
    let there ← somePresent profile context activators
    return here || there

/-- Whether every activator that has a condition says that it holds. A `no`
does not keep the later ones from being asked. -/
def allActive (profile : Profile) (context : Context) : List (Activator × Nat) → Traced Bool
  | [] => pure true
  | activator :: activators => do
    let present ← ask activator .present profile context
    let active ← if present then ask activator .active profile context else pure true
    let others ← allActive profile context activators
    return active && others

def check (activators : List Activator) (profile : Profile) (context : Context) : Traced Bool := do
  let found ← somePresent profile context activators.zipIdx
  let active ← allActive profile context activators.zipIdx
  return found && active

/-- The problem of a profile on which an activator failed. -/
def checkProblem (id : Text) (location : Option Location) (failure : Failure) : Problem where
  severity := .error
  version := .base
  message := "Failed to determine activation for profile " ++ id
  location := location
  failure := some failure

/-- What the check of a profile comes to, where a failure is reported and means no. The
report points to the declaration of the profile as it was given. -/
def contain (id : Text) (location : Option Location) (outcome : Traced Bool) : Bool × List Event :=
  match outcome.result with
  | .ok holds => (holds, outcome.events)
  | .error failure =>
    let note := { remark ("Activation check failed for profile " ++ id) with failure := some failure }
    (false, outcome.events ++ [.logged note, .reported (checkProblem id location failure)])

def conditionHolds (activators : List Activator) (profile : Profile) (location : Option Location)
    (context : Context) : Bool × List Event :=
  contain profile.id location (check activators profile context)

/-- What a model holds for a profile: the last one of its id, else the profile itself. -/
def counterpart (model : Model) (profile : Profile) : Profile :=
  (model.profiles.reverse.find? (·.id == profile.id)).getD profile

/-- The verdict for a profile that is neither selected nor deselected by the
context. -/
def Verdict.ofCondition (holds : Bool) (profile : Profile) : Verdict :=
  if holds then .selected else if profile.isDefault then .byDefault else .inactive

def judge (activators : List Activator) (model : Model) (context : Context) (profile : Profile) :
    Verdict × List Event :=
  if context.inactiveIds.contains profile.id then
    (.deactivated, [.logged (remark ("Profile " ++ profile.id ++ " explicitly deactivated"))])
  else if context.activeIds.contains profile.id then (.selected, [])
  else
    let (holds, events) :=
      conditionHolds activators (counterpart model profile) profile.location context
    (Verdict.ofCondition holds profile, events)

/-- What has been gathered from the profiles judged so far. -/
structure Tally where
  /-- The profiles that are active whatever follows. -/
  active : List Placed := []
  /-- The defaults of the project itself, which wait for the end. -/
  waiting : List Placed := []
  /-- Whether some profile of the project itself was selected. -/
  pomSelected : Bool := false

namespace Tally

def add (tally : Tally) (placed : Placed) : Verdict → Tally
  | .selected =>
    { tally with
      active := tally.active ++ [placed]
      pomSelected := tally.pomSelected || placed.1.isPom }
  | .byDefault =>
    if placed.1.isPom then { tally with waiting := tally.waiting ++ [placed] }
    else { tally with active := tally.active ++ [placed] }
  | .deactivated | .inactive => tally

/-- The active profiles, once every profile has been judged. -/
def settled (tally : Tally) : List Placed :=
  if tally.pomSelected then tally.active else tally.active ++ tally.waiting

/-- The defaults of the project itself that do not come in. -/
def skipped (tally : Tally) : List Placed := if tally.pomSelected then tally.waiting else []

end Tally

/-- The profiles judged in turn, and what happened on the way. -/
def judgeAll (activators : List Activator) (model : Model) (context : Context) :
    Tally → List Placed → Tally × List Event
  | tally, [] => (tally, [])
  | tally, placed :: rest =>
    let judged := judge activators model context placed.1
    let others := judgeAll activators model context (tally.add placed judged.1) rest
    (others.1, judged.2 ++ others.2)

def ids (placed : List Placed) : List Text := placed.map (·.1.id)

def summary (tally : Tally) : List Log.Record :=
  let note := remark ("Skipping " ++ toString tally.skipped.length
    ++ " default profile(s) from the project: " ++ Text.intercalate ", " (ids tally.skipped))
  (if tally.skipped.isEmpty then [] else [note])
    ++ [remark ("Active profiles: " ++ Text.quotedList (ids tally.settled))]

/-- What the interpolator is asked: the profiles without their locations, and
everything that the context holds. -/
def request (profiles : List Profile) (context : Context) : Request where
  model := ⟨profiles.map fun profile => { profile with location := none }⟩
  projectDirectory := context.projectDirectory
  activeIds := context.activeIds
  inactiveIds := context.inactiveIds
  systemProperties := context.systemProperties
  userProperties := context.userProperties
  twoPhase := true
  validation := .minimal

/-- The model with the interpolated conditions. Problems that the interpolator
reports are dropped. -/
def prepare (request : Request) (outcome : Interpolation) : Traced Model :=
  ⟨.requested request :: outcome.log.map .logged, outcome.result⟩

def settle (activators : List Activator) (model : Model) (context : Context)
    (profiles : List Profile) : Traced (List Placed) :=
  let judged := judgeAll activators model context {} profiles.zipIdx
  ⟨judged.2 ++ (summary judged.1).map .logged, .ok judged.1.settled⟩

def ambiguity : Log.Record where
  level := .warning
  logger := logger
  text := "Profile ids are not unique, no profile will be activated"

/-- For each profile a new one that has its id, its source and a deep copy of its
activation. -/
def projected (objects : Objects) : Store × List Profile.Object :=
  objects.store.addAll (objects.view.map fun profile => { profile with location := none })

end Resolution

open Resolution in
/-- The active profiles with their positions: the selected ones and the free
defaults in the order given, then the defaults of the project itself if they
come in. It fails only if the interpolator does. The objects come back as they are
left; what the interpolator was handed or has made is let go. -/
def Selector.resolveOn (selector : Selector) (objects : Objects) (context : Context) :
    Traced (List Placed) × Objects :=
  if (objects.profiles.map (·.id)).Nodup then
    let (store, copies) := projected objects
    let asked := request (copies.map store.profile) context
    let effect := selector.interpolator.work store copies asked
    -- The profiles are read again only now, so a change to them would show.
    let objects := { objects with store := effect.store.upTo objects.store }
    (do
      let model ← prepare asked effect.seen
      settle selector.activators model context objects.view, objects)
  else (⟨[.logged ambiguity], .ok []⟩, objects)

/-- The same for profiles of which no one else holds a part. -/
def Selector.resolve (selector : Selector) (profiles : List Profile) (context : Context) :
    Traced (List Placed) :=
  (selector.resolveOn (.ofProfiles profiles) context).1

def Selector.standard : Selector where
  activators := Activator.standard
  interpolator := .property

end BuildProfiles
