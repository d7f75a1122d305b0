/-
What a session remembers.

`configured` and `given` read off a list of steps what it leaves in force: the
activators registered, the interpolator set last, and the profiles given last, as
the objects that were given. One step changes a session as they say and in no other
way (`selector_step`, `objects_step`, `collector_step`), so a run of steps does
(`after_eq`). That a resolution leaves the objects as they were, whatever the
interpolator writes to what it is handed, is `resolveOn_eq`; so each one goes as if it
were the first.
-/
import BuildProfiles.Proofs.ActiveProfiles
import BuildProfiles.Session

namespace BuildProfiles.Session

/-! ## What the steps leave in force -/

def Step.activator? : Step → Option Activator
  | .addActivator activator => activator
  | _ => none

def Step.interpolator? : Step → Option Interpolator
  | .setInterpolator interpolator => some interpolator
  | _ => none

/-- The profiles that a step gives. A refused document gives none. -/
def Step.objects? : Step → Option Objects
  | .setProfiles objects => some objects
  | .parse loader document => (Definitions.parse loader inlineName document).toOption.map .ofProfiles
  | _ => none

/-- The activators registered so far, and the interpolator set last. -/
def configured (selector : Selector) (steps : List Step) : Selector where
  activators := selector.activators ++ steps.filterMap Step.activator?
  interpolator := (steps.filterMap Step.interpolator?).getLastD selector.interpolator

def given (objects : Objects) (steps : List Step) : Objects :=
  (steps.filterMap Step.objects?).getLastD objects

theorem getLastD_filterMap_cons {α β : Type} (f : α → Option β) (a : α) (as : List α) (b : β) :
    ((a :: as).filterMap f).getLastD b = (as.filterMap f).getLastD ((f a).getD b) := by
  cases h : f a with
  | none => rw [List.filterMap_cons_none h, Option.getD_none]
  | some c => rw [List.filterMap_cons_some h, List.getLastD_cons, Option.getD_some]

def configuredBy (selector : Selector) (next : Step) : Selector where
  activators := selector.activators ++ next.activator?.toList
  interpolator := next.interpolator?.getD selector.interpolator

theorem configured_cons (selector : Selector) (next : Step) (steps : List Step) :
    configured selector (next :: steps) = configured (configuredBy selector next) steps := by
  simp only [configured, configuredBy, getLastD_filterMap_cons]
  cases h : next.activator? with
  | none => simp [List.filterMap_cons_none h]
  | some activator => simp [List.filterMap_cons_some h]

theorem given_cons (objects : Objects) (next : Step) (steps : List Step) :
    given objects (next :: steps) = given (next.objects?.getD objects) steps :=
  getLastD_filterMap_cons Step.objects? next steps objects

/-! ## One step -/

def Outcome.problems (outcome : Outcome) : List Problem := outcome.events.filterMap Event.problem?

theorem configuredBy_eq_self {selector : Selector} {next : Step} (ha : next.activator? = none)
    (hi : next.interpolator? = none) : configuredBy selector next = selector := by
  rw [configuredBy, ha, hi, Option.toList_none, List.append_nil, Option.getD_none]

/-- Only the steps for it change the selector. -/
theorem selector_step (session : Session) (next : Step) :
    (session.step next).session.selector = configuredBy session.selector next := by
  cases next with
  | addActivator activator => rfl
  | setInterpolator interpolator =>
    rw [configuredBy, show (Step.setInterpolator interpolator).activator? = none from rfl,
      Option.toList_none, List.append_nil]
    rfl
  | setProfiles objects => exact (configuredBy_eq_self rfl rfl).symm
  | resolve context => exact (configuredBy_eq_self rfl rfl).symm
  | parse loader document =>
    rw [configuredBy_eq_self rfl rfl, step]
    split <;> rfl
  | addProblem draft =>
    rw [configuredBy_eq_self rfl rfl, step]
    split <;> rfl

/-- Only a list that is given takes the place of the profiles, and they stay what they
are. -/
theorem objects_step (session : Session) (next : Step) :
    (session.step next).session.objects = next.objects?.getD session.objects := by
  cases next with
  | addActivator activator => rfl
  | setInterpolator interpolator => rfl
  | setProfiles objects => rfl
  | resolve context => exact congrArg Prod.snd (Resolution.resolveOn_eq ..)
  | parse loader document =>
    rw [step, Step.objects?]
    split
    · rename_i h; rw [h]; rfl
    · rename_i h; rw [h]; rfl
  | addProblem draft =>
    rw [step]
    split <;> rfl

/-- The collector gains the problems that come with the step. -/
theorem collector_step (session : Session) (next : Step) :
    (session.step next).session.collector.problems =
      session.collector.problems ++ (session.step next).problems := by
  cases next with
  | addActivator activator => simp [step, Outcome.problems]
  | setInterpolator interpolator => simp [step, Outcome.problems]
  | setProfiles objects => simp [step, Outcome.problems]
  | resolve context => rfl
  | parse loader document =>
    simp only [step]
    split <;> simp [Outcome.problems, Event.problem?]
  | addProblem draft =>
    simp only [step]
    split <;> simp [Outcome.problems, Event.problem?, Collector.add]

/-! ## Many steps -/

def after (session : Session) (steps : List Step) : Session :=
  steps.foldl (fun session next => (session.step next).session) session

/-- The problems that come with the steps, in order. -/
def reported (session : Session) (steps : List Step) : List Problem :=
  (session.run steps).flatMap Outcome.problems

/-- **A run keeps what its steps say**, and nothing else. -/
theorem after_eq (session : Session) (steps : List Step) :
    session.after steps =
      { selector := configured session.selector steps
        collector := ⟨session.collector.problems ++ session.reported steps⟩
        objects := given session.objects steps } := by
  induction steps generalizing session with
  | nil => simp [after, configured, given, reported, run]
  | cons next steps ih =>
    rw [after, List.foldl_cons, ← after, ih, selector_step, objects_step, collector_step,
      configured_cons, given_cons, reported, reported, run, List.flatMap_cons, List.append_assoc]

theorem run_append (session : Session) (before rest : List Step) :
    session.run (before ++ rest) = session.run before ++ (session.after before).run rest := by
  induction before generalizing session with
  | nil => rfl
  | cons next before ih => rw [List.cons_append, run, ih, run, List.cons_append, after, after, List.foldl_cons]

theorem length_run (session : Session) (steps : List Step) :
    (session.run steps).length = steps.length := by
  induction steps generalizing session with
  | nil => rfl
  | cons next steps ih => rw [run, List.length_cons, List.length_cons, ih]

theorem getElem?_run (session : Session) (before : List Step) (next : Step) (rest : List Step) :
    (session.run (before ++ next :: rest))[before.length]? = some ((session.after before).step next) := by
  rw [run_append, run, List.getElem?_append_right (Nat.le_of_eq (length_run ..)), length_run, Nat.sub_self,
    List.getElem?_cons_zero]

/-- What a resolution answers and does, and which problems it adds, depends on the
selector and on how the profiles stand. -/
theorem resolve_step (session : Session) (context : Context) :
    session.step (.resolve context) =
      let outcome := session.selector.resolve session.profiles context
      ⟨{ session with
          collector := session.collector.addAll (outcome.events.filterMap Event.problem?) },
        match outcome.result with
        | .ok placed => .active placed
        | .error failure => .resolutionFailed failure,
        outcome.events⟩ := by
  rw [step, Resolution.resolveOn_eq]
  rfl

/-- **Every resolution of a session goes as if it were the first one.** It
answers what a new session answers that has the activators registered so far,
the interpolator set last and fresh copies of the profiles as they were given; it
asks the interpolator and the activators the same, reports the same problems behind
the earlier ones, and leaves the objects that were given, with what they refer to, as
they were given. -/
theorem resolve_as_first (session : Session) (before rest : List Step) (context : Context) :
    let current := given session.objects before
    let fresh : Session :=
      { selector := configured session.selector before, objects := .ofProfiles current.view }
    let first := fresh.step (.resolve context)
    ∃ outcome, (session.run (before ++ .resolve context :: rest))[before.length]? = some outcome ∧
      outcome.answer = first.answer ∧ outcome.events = first.events ∧
      outcome.session.collector.problems =
        session.collector.problems ++ session.reported before ++ first.session.collector.problems ∧
      outcome.session.selector = configured session.selector before ∧
      outcome.session.objects = current ∧ outcome.session.profiles = current.view := by
  intro current fresh first
  have hfresh : fresh.profiles = current.view := Objects.view_ofProfiles _
  refine ⟨_, getElem?_run session before (.resolve context) rest, ?_⟩
  rw [resolve_step, show first = _ from resolve_step fresh context, hfresh, after_eq]
  exact ⟨rfl, rfl, rfl, rfl, rfl, rfl⟩

/-- Two profiles share an activation. The first interpolator takes the condition out of
what it is handed and hands nothing back; the second one expands it. The profiles keep
theirs, so each resolution finds it. -/
example :
    let shared : Objects :=
      { store := { activations := [⟨false, none, some "${range}"⟩] }
        profiles := [⟨"docs", pomSource, some 0, none⟩, ⟨"site", pomSource, some 0, none⟩] }
    let blank := Interpolator.ofOutcome fun asked =>
      { model := ⟨asked.model.profiles.map ({ · with activation := some {} })⟩, answer := .nothing }
    let context : Context :=
      { systemProperties := .ofList [("java.version", "17"), ("range", "[11,)")] }
    let session : Session := { selector := { activators := Activator.standard } }
    (session.run [.setProfiles shared, .setInterpolator blank, .resolve context,
        .setInterpolator .property, .resolve context]).map (fun outcome =>
          (outcome.session.objects == shared, match outcome.answer with
            | .active placed => Resolution.ids placed
            | _ => [])) =
      [(true, []), (true, []), (true, []), (true, []), (true, [("docs" : Text), "site"])] := by
  decide +kernel

end BuildProfiles.Session
