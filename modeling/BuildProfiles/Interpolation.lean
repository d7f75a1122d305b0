/-
Expanding the conditions of a model before they are judged.

An interpolator is asked with a request that carries the model. It may change
that model, hand back another one, hand back none, or fail; an `Interpolation`
keeps these apart. It works on objects (`Interpolator.work`) and changes in place
what it is handed. Two laws come with it: it writes through no other reference, and
what it does depends on what the objects hold and not on where they are.

`Interpolator.property` is the one that expands expressions: its values are the
project directory, the system properties and the user properties, where a later one
of these hides an earlier one.
-/
import BuildProfiles.Context
import BuildProfiles.Expression
import BuildProfiles.Problem
import BuildProfiles.Store

namespace BuildProfiles

/-- The part of a build that an interpolator sees. -/
structure Model where
  profiles : List Profile
  deriving DecidableEq, Repr

inductive ValidationLevel where
  | minimal
  | strict
  deriving DecidableEq, Repr

def ValidationLevel.rank : ValidationLevel → Nat
  | .minimal => 0
  | .strict => 31

structure Request where
  model : Model
  projectDirectory : Option Path := none
  activeIds : List Text := []
  inactiveIds : List Text := []
  systemProperties : Properties := .empty
  userProperties : Properties := .empty
  twoPhase : Bool := false
  validation : ValidationLevel := .strict
  deriving DecidableEq

/-- What an interpolator hands back. -/
inductive Interpolation.Answer (α : Type) where
  /-- The model that it was handed. -/
  | handed
  /-- No model. -/
  | nothing
  /-- A model of its own. -/
  | replaced (model : α)
  | failed (failure : Failure)
  deriving DecidableEq, Repr

namespace Interpolation.Answer

variable {α β : Type}

def map (f : α → β) : Answer α → Answer β
  | .handed => .handed
  | .nothing => .nothing
  | .replaced model => .replaced (f model)
  | .failed failure => .failed failure

def replaced? : Answer α → Option α
  | .replaced model => some model
  | _ => none

end Interpolation.Answer

/-- What comes of a request. -/
structure Interpolation where
  /-- The model that was handed over, as it was left. -/
  model : Model
  answer : Interpolation.Answer Model := .handed
  problems : List Problem := []
  log : List Log.Record := []
  deriving DecidableEq, Repr

/-- The model to go on with. Where none is handed back, it is the one handed over. -/
def Interpolation.result (outcome : Interpolation) : Except Failure Model :=
  match outcome.answer with
  | .handed | .nothing => .ok outcome.model
  | .replaced model => .ok model
  | .failed failure => .error failure

/-- The same where the models are objects: the store as it is left, and the profiles of
the model that was handed over, as they are left. -/
structure Interpolation.Effect where
  store : Store
  handed : List Profile.Object
  answer : Interpolation.Answer (List Profile.Object) := .handed
  problems : List Problem := []
  log : List Log.Record := []

/-- What the objects come to. -/
def Interpolation.Effect.seen (effect : Interpolation.Effect) : Interpolation where
  model := ⟨effect.handed.map effect.store.profile⟩
  answer := effect.answer.map fun objects => ⟨objects.map effect.store.profile⟩
  problems := effect.problems
  log := effect.log

/-- Of what was there before, at most the parts of the objects have changed. -/
structure Store.Confined (store : Store) (handed : List Profile.Object) (after : Store) : Prop where
  activations : ∀ place < store.activations.length,
    (∀ object ∈ handed, object.activation ≠ some place) →
      after.activations[place]? = store.activations[place]?
  conditions : ∀ place < store.conditions.length,
    (∀ object ∈ handed, store.condition? object ≠ some place) →
      after.conditions[place]? = store.conditions[place]?

/-- A way to prepare a model. -/
structure Interpolator where
  /-- What is seen of it, asked with a request. -/
  interpolate : Request → Interpolation
  /-- What it does with the model as objects. What these hold stands in the request. -/
  work : Store → List Profile.Object → Request → Interpolation.Effect
  /-- It writes through the references that it is handed and through no others. It may make
  objects of its own. -/
  confined : ∀ (store : Store) (handed : List Profile.Object) (request : Request),
    store.Confined handed (work store handed request).store
  /-- Handed objects that share nothing, it does what is seen of it, wherever they are. -/
  seen : ∀ {store : Store} {handed : List Profile.Object} {request : Request},
    (∀ object ∈ handed, store.Sound object) → handed.Pairwise store.Separate →
      request.model.profiles = handed.map store.profile →
        (work store handed request).seen = interpolate request

namespace Interpolator

theorem confined_amendAll {store after : Store} {handed : List Profile.Object}
    {edits : List (Profile.Object × (Activation → Activation))} (h : ∀ edit ∈ edits, edit.1 ∈ handed)
    (hafter : (store.amendAll edits).Extends after) : store.Confined handed after where
  activations place hplace hother := by
    rw [hafter.getElem?_activations ((store.length_amendAll edits).1 ▸ hplace)]
    exact Store.getElem?_activations_amendAll fun edit hedit => hother edit.1 (h edit hedit)
  conditions place hplace hother := by
    rw [hafter.getElem?_conditions ((store.length_amendAll edits).2 ▸ hplace)]
    exact Store.getElem?_conditions_amendAll fun edit hedit => hother edit.1 (h edit hedit)

/-- What a profile is left with, written over what was handed for it. -/
def overwrites (handed : List Profile.Object) (profiles : List Profile) :
    List (Profile.Object × (Activation → Activation)) :=
  (handed.zip profiles).map fun (object, profile) => (object, profile.activation.getD)

/-- Any outcome comes of some interpolator. This one writes over what it is handed, and leaves
a model of new objects. -/
def ofOutcome (outcome : Request → Interpolation) : Interpolator where
  interpolate := outcome
  work store handed request :=
    let left := outcome request
    let (store, objects) :=
      (store.amendAll (overwrites handed left.model.profiles)).addAll left.model.profiles
    let (store, own) := store.addAll ((left.answer.replaced?.map (·.profiles)).getD [])
    { store, handed := objects, answer := left.answer.map fun _ => own
      problems := left.problems, log := left.log }
  confined store handed request := by
    refine confined_amendAll (fun edit hedit => ?_)
      ((Store.made_addAll _ _).append (Store.made_addAll _ _)).kept
    obtain ⟨⟨object, profile⟩, hmem, rfl⟩ := List.mem_map.1 hedit
    exact (List.of_mem_zip hmem).1
  seen {store handed request} _ _ _ := by
    obtain ⟨⟨profiles⟩, answer, problems, log⟩ := outcome request
    have hleft := Store.made_addAll (store.amendAll (overwrites handed profiles)) profiles
    have hown := Store.made_addAll ((store.amendAll (overwrites handed profiles)).addAll profiles).1
      ((answer.replaced?.map (·.profiles)).getD [])
    simp only [Interpolation.Effect.seen, hleft.map_profile hown.kept, Interpolation.mk.injEq,
      true_and, and_true]
    cases answer with
    | replaced model =>
      exact congrArg (fun profiles => Interpolation.Answer.replaced (Model.mk profiles)) hown.profiles
    | handed => rfl
    | nothing => rfl
    | failed failure => rfl

def passThrough : Interpolator where
  interpolate request := { model := request.model }
  work store handed _ := { store, handed }
  confined _ _ _ := ⟨fun _ _ _ => rfl, fun _ _ _ => rfl⟩
  seen _ _ h := by rw [Interpolation.Effect.seen, ← h]; rfl

def expandText (value? : Text → Option Text) (text : Text) : Text :=
  Text.ofList (Expression.expand value? text.toList).text

def textLog (value? : Text → Option Text) (text : Text) : List Log.Record :=
  if (Expression.expand value? text.toList).gaveUp then
    [{ level := .debug
       logger := "profile_activation.adapters.interpolation.property_interpolator"
       text := "Giving up resolving " ++ Text.quoted text ++ " after "
         ++ toString Expression.maxPasses ++ " passes" }]
  else []

def expandActivation (value? : Text → Option Text) (activation : Activation) : Activation :=
  { activation with
    property := activation.property.map fun condition =>
      ⟨condition.name.map (expandText value?), condition.value.map (expandText value?)⟩
    jdk := activation.jdk.map (expandText value?) }

def expandProfile (value? : Text → Option Text) (profile : Profile) : Profile :=
  { profile with activation := profile.activation.map (expandActivation value?) }

/-- The texts of a profile that are expanded, in that order. -/
def expandedTexts (profile : Profile) : List Text :=
  (profile.property?.bind (·.name)).toList ++ (profile.property?.bind (·.value)).toList
    ++ profile.jdk?.toList

/-- The names under which the project directory is known. -/
def directoryNames : List Text := ["basedir", "project.basedir"]

def values (request : Request) : Properties :=
  let directory := Properties.ofList <|
    request.projectDirectory.toList.flatMap fun path => directoryNames.map fun name => (name, path.text)
  (directory.update request.systemProperties).update request.userProperties

def expansionLog (value? : Text → Option Text) (model : Model) : List Log.Record :=
  model.profiles.flatMap fun profile => (expandedTexts profile).flatMap (textLog value?)

/-- Expands the conditions of every profile in place. -/
def property : Interpolator where
  interpolate request :=
    let value? := (values request).get?
    { model := ⟨request.model.profiles.map (expandProfile value?)⟩
      log := expansionLog value? request.model }
  work store handed request :=
    let value? := (values request).get?
    { store := store.amendAll (handed.map (·, expandActivation value?)), handed
      log := expansionLog value? request.model }
  confined store handed request := by
    refine confined_amendAll ?_ (.refl _)
    simp only [List.forall_mem_map]
    exact fun object hobject => hobject
  seen _ separate h := by
    -- Expanding a condition leaves one.
    rw [Interpolation.Effect.seen, Store.map_profile_amendAll separate fun _ => Option.isSome_map, ← h]
    rfl

end Interpolator

end BuildProfiles
