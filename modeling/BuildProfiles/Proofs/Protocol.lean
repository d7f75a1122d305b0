/-
The protocol by which activators are consulted, also where they remember.

An `Activator` answers from the profile and the context alone. Here the steps of a
resolution are taken with activators that look at the history besides: every call
made so far, with what was replied to it. This is no second account of the steps:
`checkBy` is the check of a profile whatever asking does, and the one that runs is
an instance of it (`check_eq`); with activators that remember nothing, the calls
are those of the run (`calls_converse`).

Whatever is answered, what is said about one profile is a `Course`: both passes, or
the part of them that ends at the first failure.
-/
import BuildProfiles.Proofs.Faults

namespace BuildProfiles.Resolution

open Consultation

/-! ## Activators that remember -/

/-- A call, and what was replied to it. -/
structure Exchange where
  call : Call
  reply : Reply

def Exchange.events (x : Exchange) : List Event := .called x.call :: x.reply.problems.map .reported

/-- An activator whose reply may depend on all that was said before. -/
structure Mindful where
  reply : List Exchange → Question → Profile → Context → Reply

/-- An activator that remembers nothing. -/
def Mindful.of (activator : Activator) : Mindful := ⟨fun _ => activator.reply⟩

/-- Steps that read the history and add to it. What they add before a failure stays. -/
abbrev Talk := ExceptT Failure (StateM (List Exchange))

def Mindful.ask (profile : Profile) (context : Context) (activator : Mindful × Nat) (question : Question) :
    Talk Bool := fun history =>
  let reply := activator.1.reply history question profile context
  (reply.answer, history ++ [⟨⟨activator.2, question, profile.id⟩, reply⟩])

/-! ## The steps of a check -/

section

variable {m : Type → Type} [Monad m] {α : Type} (ask : α → Question → m Bool)

/-- The first pass, whatever asking does. -/
def somePresentBy : List α → m Bool
  | [] => pure false
  | activator :: activators => do
    let here ← ask activator .present
    let there ← somePresentBy activators
    return here || there

/-- The second pass, whatever asking does. -/
def allActiveBy : List α → m Bool
  | [] => pure true
  | activator :: activators => do
    let present ← ask activator .present
    let active ← if present then ask activator .active else pure true
    let others ← allActiveBy activators
    return active && others

def checkBy (activators : List α) : m Bool := do
  let found ← somePresentBy ask activators
  let active ← allActiveBy ask activators
  return found && active

end

section

variable (profile : Profile) (context : Context)

theorem somePresent_eq (activators : List (Activator × Nat)) :
    somePresent profile context activators =
      somePresentBy (fun activator question => ask activator question profile context) activators := by
  induction activators with
  | nil => rfl
  | cons activator activators ih => rw [somePresent, somePresentBy, ih]

theorem allActive_eq (activators : List (Activator × Nat)) :
    allActive profile context activators =
      allActiveBy (fun activator question => ask activator question profile context) activators := by
  induction activators with
  | nil => rfl
  | cons activator activators ih => rw [allActive, allActiveBy, ih]

/-- The check that runs takes these steps. -/
theorem check_eq (activators : List Activator) :
    check activators profile context =
      checkBy (fun activator question => ask activator question profile context) activators.zipIdx := by
  rw [check, checkBy, somePresent_eq, allActive_eq]

end

/-- What has been said once the profile has been judged. Only a profile that the
context leaves open is talked about. -/
def hear (activators : List Mindful) (model : Model) (context : Context) (history : List Exchange)
    (p : Profile) : List Exchange :=
  if Undecided context p then
    (checkBy (Mindful.ask (counterpart model p) context) activators.zipIdx history).2
  else history

/-- What has been said once all profiles have been judged in turn. -/
def converse (activators : List Mindful) (model : Model) (context : Context) (profiles : List Profile)
    (history : List Exchange) : List Exchange :=
  profiles.foldl (hear activators model context) history

namespace Talk

variable {α β : Type} {talk : Talk α} {next : α → Talk β} {history later : List Exchange}

theorem bind_of_ok {a : α} (h : talk history = (.ok a, later)) :
    (talk >>= next) history = next a later := by
  show ExceptT.bindCont next (talk history).1 (talk history).2 = _
  rw [h]
  rfl

theorem bind_of_error {failure : Failure} (h : talk history = (.error failure, later)) :
    (talk >>= next) history = (.error failure, later) := by
  show ExceptT.bindCont next (talk history).1 (talk history).2 = _
  rw [h]
  rfl

end Talk

/-! ## Activators that remember nothing -/

/-- The steps end as `run` does, and leave behind what it does. -/
def Mirrors {α : Type} (talk : Talk α) (run : Traced α) : Prop :=
  ∀ history, ∃ said, talk history = (run.result, history ++ said) ∧
    said.flatMap Exchange.events = run.events

namespace Mirrors

variable {α β : Type}

theorem pure (a : α) : Mirrors (Pure.pure a) (Pure.pure a) := fun history =>
  ⟨[], by rw [List.append_nil]; rfl, rfl⟩

theorem ask (profile : Profile) (context : Context) (activator : Activator) (position : Nat)
    (question : Question) :
    Mirrors (Mindful.ask profile context (.of activator, position) question)
      (Resolution.ask (activator, position) question profile context) := fun _ =>
  ⟨[⟨⟨position, question, profile.id⟩, activator.reply question profile context⟩], rfl,
    List.append_nil _⟩

theorem bind {talk : Talk α} {run : Traced α} {next : α → Talk β} {step : α → Traced β}
    (h : Mirrors talk run) (hnext : ∀ a, Mirrors (next a) (step a)) :
    Mirrors (talk >>= next) (run >>= step) := by
  intro history
  obtain ⟨said, htalk, hsaid⟩ := h history
  cases hr : run.result with
  | error failure =>
    rw [hr] at htalk
    refine ⟨said, ?_, ?_⟩
    · rw [Talk.bind_of_error htalk, Traced.bind_of_error hr]
    · rw [hsaid, Traced.bind_of_error hr]
  | ok a =>
    rw [hr] at htalk
    obtain ⟨more, hmore, hevents⟩ := hnext a (history ++ said)
    refine ⟨said ++ more, ?_, ?_⟩
    · rw [Talk.bind_of_ok htalk, hmore, Traced.bind_of_ok hr, List.append_assoc]
    · rw [List.flatMap_append, hsaid, hevents, Traced.bind_of_ok hr]

variable {askTalk : α → Question → Talk Bool} {askRun : β → Question → Traced Bool} {f : β → α}

theorem somePresentBy (hask : ∀ b question, Mirrors (askTalk (f b) question) (askRun b question))
    (activators : List β) :
    Mirrors (Resolution.somePresentBy askTalk (activators.map f))
      (Resolution.somePresentBy askRun activators) := by
  induction activators with
  | nil => exact .pure false
  | cons activator activators ih =>
    exact (hask activator .present).bind fun here => ih.bind fun there => .pure (here || there)

theorem allActiveBy (hask : ∀ b question, Mirrors (askTalk (f b) question) (askRun b question))
    (activators : List β) :
    Mirrors (Resolution.allActiveBy askTalk (activators.map f))
      (Resolution.allActiveBy askRun activators) := by
  induction activators with
  | nil => exact .pure true
  | cons activator activators ih =>
    refine (hask activator .present).bind fun present => ?_
    cases present with
    | false => exact (Mirrors.pure true).bind fun active => ih.bind fun others => .pure (active && others)
    | true =>
      exact (hask activator .active).bind fun active => ih.bind fun others => .pure (active && others)

/-- The steps of a check mirror each other if asking does. -/
theorem checkBy (hask : ∀ b question, Mirrors (askTalk (f b) question) (askRun b question))
    (activators : List β) :
    Mirrors (Resolution.checkBy askTalk (activators.map f)) (Resolution.checkBy askRun activators) :=
  (somePresentBy hask activators).bind fun found =>
    (allActiveBy hask activators).bind fun active => .pure (found && active)

end Mirrors

theorem mirrors_check (profile : Profile) (context : Context) (activators : List Activator) :
    Mirrors (checkBy (Mindful.ask profile context) (activators.map .of).zipIdx)
      (check activators profile context) := by
  rw [check_eq, List.zipIdx_map]
  exact .checkBy (fun activator => .ask profile context activator.1 activator.2) activators.zipIdx

section

variable {activators : List Activator} {model : Model} {context : Context}

/-- Beside its calls, a check only leaves reports and remarks behind. -/
theorem calls_conditionHolds (q : Profile) (location : Option Location) :
    (conditionHolds activators q location context).2.filterMap Event.call? =
      calls (check activators q context) := by
  simp only [conditionHolds, contain]
  split
  · rfl
  · rw [List.filterMap_append]
    exact List.append_nil _

theorem callsOn_eq (p : Profile) :
    callsOn activators model context p =
      if Undecided context p then calls (check activators (counterpart model p) context) else [] := by
  split
  · rename_i h
    rw [callsOn, judge_of_undecided h.1 h.2, calls_conditionHolds]
  · rename_i h
    exact filterMap_judge_of_decided (fun _ => rfl) h

/-- The calls of a check are its consultations up to the first that fails. -/
theorem calls_check (q : Profile) :
    calls (check activators q context) =
      (untilFailure q context (consultations q context activators)).map (·.call q) := by
  rw [calls, (follows_check activators q context).events, List.filterMap_flatMap, List.map_eq_flatMap]
  exact List.flatMap_congr fun c _ => calls_events q context c

theorem calls_exchanges (said : List Exchange) :
    (said.flatMap Exchange.events).filterMap Event.call? = said.map (·.call) := by
  rw [List.filterMap_flatMap, List.map_eq_flatMap]
  refine List.flatMap_congr fun x _ => ?_
  have hnone : (x.reply.problems.map Event.reported).filterMap Event.call? = [] := by
    rw [List.filterMap_map]
    exact List.filterMap_eq_nil_iff.2 fun _ _ => rfl
  show x.call :: (x.reply.problems.map Event.reported).filterMap Event.call? = _
  rw [hnone]

/-- With activators that remember nothing, the calls are those of the run. -/
theorem calls_converse (profiles : List Profile) (history : List Exchange) :
    (converse (activators.map .of) model context profiles history).map (·.call) =
      history.map (·.call) ++ profiles.flatMap (callsOn activators model context) := by
  induction profiles generalizing history with
  | nil => exact (List.append_nil _).symm
  | cons p profiles ih =>
    have hear_eq : (hear (activators.map .of) model context history p).map (·.call) =
        history.map (·.call) ++ callsOn activators model context p := by
      rw [hear, callsOn_eq]
      split
      · obtain ⟨said, htalk, hevents⟩ := mirrors_check (counterpart model p) context activators history
        rw [htalk, List.map_append, ← calls_exchanges said, hevents, calls]
      · exact (List.append_nil _).symm
    rw [converse, List.foldl_cons, ← converse, ih, hear_eq, List.flatMap_cons, List.append_assoc]

end

/-! ## What is said about one profile -/

/-- How the activator at a position is asked in the first pass. -/
def Asked (id : Text) (position : Nat) (x : Exchange) : Prop :=
  ∃ problems present, x = ⟨⟨position, .present, id⟩, problems, .ok present⟩

/-- What the activator at a position is asked in the second pass: the same
question again, and right behind it, if the answer was yes, the other one. -/
inductive Turn (id : Text) (position : Nat) : List Exchange → Prop
  | absent (problems : List Problem) : Turn id position [⟨⟨position, .present, id⟩, problems, .ok false⟩]
  | judged (problems others : List Problem) (active : Bool) :
      Turn id position
        [⟨⟨position, .present, id⟩, problems, .ok true⟩, ⟨⟨position, .active, id⟩, others, .ok active⟩]

/-- Both passes over `size` activators, in their order, where none fails. -/
def Undisturbed (size : Nat) (id : Text) (said : List Exchange) : Prop :=
  ∃ first second, said = first ++ second.flatten ∧
    List.Forall₂ (Asked id) (.range size) first ∧ List.Forall₂ (Turn id) (.range size) second

/-- What is said goes as the whole, but breaks off with a failure where the whole has an
answer. -/
inductive BreaksOff (failure : Failure) : List Exchange → List Exchange → Prop
  | intro (before after : List Exchange) (call : Call) (problems others : List Problem) (answer : Bool) :
      BreaksOff failure (before ++ ⟨call, others, .ok answer⟩ :: after)
        (before ++ [⟨call, problems, .error failure⟩])

namespace BreaksOff

variable {failure : Failure} {whole said : List Exchange}

theorem append_left (first : List Exchange) (h : BreaksOff failure whole said) :
    BreaksOff failure (first ++ whole) (first ++ said) := by
  obtain ⟨before, after, call, problems, others, answer⟩ := h
  rw [← List.append_assoc, ← List.append_assoc]
  exact .intro (first ++ before) after call problems others answer

theorem append_right (more : List Exchange) (h : BreaksOff failure whole said) :
    BreaksOff failure (whole ++ more) said := by
  obtain ⟨before, after, call, problems, others, answer⟩ := h
  rw [List.append_assoc, List.cons_append]
  exact .intro before (after ++ more) call problems others answer

end BreaksOff

/-- Both passes, or what is left of them when they are cut right behind the first failure. -/
inductive Course (size : Nat) (id : Text) : List Exchange → Prop
  | whole {said : List Exchange} : Undisturbed size id said → Course size id said
  | cut {whole said : List Exchange} {failure : Failure} :
      Undisturbed size id whole → BreaksOff failure whole said → Course size id said

/-- The steps say and answer what `Goes` allows, or break off with a failure. -/
def Runs {α : Type} (talk : Talk α) (Goes : List Exchange → α → Prop) : Prop :=
  ∀ history,
    (∃ said a, talk history = (.ok a, history ++ said) ∧ Goes said a) ∨
    ∃ said failure, talk history = (.error failure, history ++ said) ∧
      ∃ whole a, BreaksOff failure whole said ∧ Goes whole a

namespace Runs

variable {α β : Type}

theorem exists_goes {talk : Talk α} {Goes : List Exchange → α → Prop} (h : Runs talk Goes) :
    ∃ said a, Goes said a := by
  rcases h [] with ⟨said, a, -, hgoes⟩ | ⟨_, _, -, whole, a, -, hgoes⟩
  · exact ⟨said, a, hgoes⟩
  · exact ⟨whole, a, hgoes⟩

theorem pure (a : α) : Runs (Pure.pure a) fun said b => said = [] ∧ b = a := fun history =>
  .inl ⟨[], a, by rw [List.append_nil]; rfl, rfl, rfl⟩

theorem ask (profile : Profile) (context : Context) (activator : Mindful × Nat) (question : Question) :
    Runs (Mindful.ask profile context activator question) fun said answer =>
      ∃ problems, said = [⟨⟨activator.2, question, profile.id⟩, problems, .ok answer⟩] := by
  intro history
  cases h : activator.1.reply history question profile context with
  | mk problems answer =>
    cases answer with
    | ok answer => exact .inl ⟨_, answer, by simp only [Mindful.ask, h], problems, rfl⟩
    | error failure =>
      refine .inr ⟨_, failure, ?_, _, true, .intro [] [] _ problems [] true, [], rfl⟩
      simp only [Mindful.ask, h, List.nil_append]

theorem bind {talk : Talk α} {next : α → Talk β} {Goes : List Exchange → α → Prop}
    {Then : α → List Exchange → β → Prop} (h : Runs talk Goes) (hnext : ∀ a, Runs (next a) (Then a)) :
    Runs (talk >>= next) fun said b => ∃ first more a, said = first ++ more ∧ Goes first a ∧ Then a more b := by
  intro history
  rcases h history with ⟨said, a, htalk, hgoes⟩ | ⟨said, failure, htalk, whole, a, hbreaks, hgoes⟩
  · rw [Talk.bind_of_ok htalk]
    rcases hnext a (history ++ said) with
      ⟨more, b, hnext, hthen⟩ | ⟨more, failure, hnext, whole, b, hbreaks, hthen⟩
    · exact .inl ⟨said ++ more, b, by rw [hnext, List.append_assoc], said, more, a, rfl, hgoes, hthen⟩
    · exact .inr ⟨said ++ more, failure, by rw [hnext, List.append_assoc], said ++ whole, b,
        hbreaks.append_left said, said, whole, a, rfl, hgoes, hthen⟩
  · -- The steps that were to follow would have gone somehow.
    obtain ⟨more, b, hthen⟩ := (hnext a).exists_goes
    exact .inr ⟨said, failure, Talk.bind_of_error htalk, whole ++ more, b, hbreaks.append_right more,
      whole, more, a, rfl, hgoes, hthen⟩

theorem mono {talk : Talk α} {Goes Goes' : List Exchange → α → Prop} (h : Runs talk Goes)
    (hgoes : ∀ said a, Goes said a → Goes' said a) : Runs talk Goes' := by
  intro history
  rcases h history with ⟨said, a, htalk, h⟩ | ⟨said, failure, htalk, whole, a, hbreaks, h⟩
  · exact .inl ⟨said, a, htalk, hgoes said a h⟩
  · exact .inr ⟨said, failure, htalk, whole, a, hbreaks, hgoes whole a h⟩

/-- What is done with the value says nothing more. -/
theorem map {talk : Talk α} {Goes : List Exchange → α → Prop} (f : α → β) (h : Runs talk Goes) :
    Runs (talk >>= fun a => Pure.pure (f a)) fun said b => ∃ a, b = f a ∧ Goes said a := by
  refine (h.bind fun a => Runs.pure (f a)).mono ?_
  rintro _ _ ⟨said, _, a, rfl, hgoes, rfl, rfl⟩
  exact ⟨a, rfl, by rwa [List.append_nil]⟩

end Runs

section

variable (profile : Profile) (context : Context)

theorem runs_somePresent (activators : List (Mindful × Nat)) :
    Runs (somePresentBy (Mindful.ask profile context) activators) fun said _ =>
      List.Forall₂ (Asked profile.id) (activators.map (·.2)) said := by
  induction activators with
  | nil =>
    refine (Runs.pure false).mono ?_
    rintro _ _ ⟨rfl, -⟩
    exact .nil
  | cons activator activators ih =>
    refine ((Runs.ask profile context activator .present).bind fun here => ih.map (here || ·)).mono ?_
    rintro _ _ ⟨_, said, here, rfl, ⟨problems, rfl⟩, _, -, hsaid⟩
    exact .cons ⟨problems, here, rfl⟩ hsaid

theorem runs_allActive (activators : List (Mindful × Nat)) :
    Runs (allActiveBy (Mindful.ask profile context) activators) fun said _ =>
      ∃ turns, said = turns.flatten ∧ List.Forall₂ (Turn profile.id) (activators.map (·.2)) turns := by
  induction activators with
  | nil =>
    refine (Runs.pure true).mono ?_
    rintro _ _ ⟨rfl, -⟩
    exact ⟨[], rfl, .nil⟩
  | cons activator activators ih =>
    -- What is asked behind the answer `present` depends on it.
    have behind : ∀ present, Runs
        (do
          let active ← if present then Mindful.ask profile context activator .active else Pure.pure true
          let others ← allActiveBy (Mindful.ask profile context) activators
          return active && others) fun said _ =>
        ∃ judged turns, said = judged ++ turns.flatten ∧
          (∀ problems, Turn profile.id activator.2
            (⟨⟨activator.2, .present, profile.id⟩, problems, .ok present⟩ :: judged)) ∧
          List.Forall₂ (Turn profile.id) (activators.map (·.2)) turns := by
      intro present
      cases present with
      | false =>
        refine ((Runs.pure true).bind fun active => ih.map (active && ·)).mono ?_
        rintro _ _ ⟨_, _, _, rfl, ⟨rfl, -⟩, _, -, turns, rfl, hturns⟩
        exact ⟨[], turns, rfl, .absent, hturns⟩
      | true =>
        refine ((Runs.ask profile context activator .active).bind fun active => ih.map (active && ·)).mono ?_
        rintro _ _ ⟨_, _, active, rfl, ⟨others, rfl⟩, _, -, turns, rfl, hturns⟩
        exact ⟨_, turns, rfl, fun problems => .judged problems others active, hturns⟩
    refine ((Runs.ask profile context activator .present).bind behind).mono ?_
    rintro _ _ ⟨_, _, present, rfl, ⟨problems, rfl⟩, judged, turns, rfl, hturn, hturns⟩
    exact ⟨_ :: turns, rfl, .cons (hturn problems) hturns⟩

theorem runs_check (activators : List Mindful) :
    Runs (checkBy (Mindful.ask profile context) activators.zipIdx) fun said _ =>
      Undisturbed activators.length profile.id said := by
  refine ((runs_somePresent profile context activators.zipIdx).bind fun found =>
    (runs_allActive profile context activators.zipIdx).map (found && ·)).mono ?_
  have hpositions : activators.zipIdx.map (·.2) = .range activators.length := by
    rw [List.zipIdx_map_snd, List.range_eq_range']
  rw [hpositions]
  rintro _ _ ⟨first, _, _, rfl, hfirst, _, -, second, rfl, hsecond⟩
  exact ⟨first, second, rfl, hfirst, hsecond⟩

/-- A check adds one course to the history. -/
theorem course_check (activators : List Mindful) (history : List Exchange) :
    ∃ course, (checkBy (Mindful.ask profile context) activators.zipIdx history).2 = history ++ course ∧
      Course activators.length profile.id course := by
  rcases runs_check profile context activators history with
    ⟨said, _, htalk, hsaid⟩ | ⟨said, failure, htalk, whole, _, hbreaks, hwhole⟩
  · exact ⟨said, by rw [htalk], .whole hsaid⟩
  · exact ⟨said, by rw [htalk], .cut hwhole hbreaks⟩

end

/-- A run adds one course for each profile that the context leaves open. -/
theorem courses_converse (activators : List Mindful) (model : Model) (context : Context)
    (profiles : List Profile) (history : List Exchange) :
    ∃ courses, converse activators model context profiles history = history ++ courses.flatten ∧
      List.Forall₂ (fun p => Course activators.length p.id) (profiles.filter (Undecided context ·)) courses := by
  induction profiles generalizing history with
  | nil => exact ⟨[], (List.append_nil _).symm, .nil⟩
  | cons p profiles ih =>
    rw [converse, List.foldl_cons, ← converse, hear]
    by_cases hp : Undecided context p
    · obtain ⟨course, hhistory, hcourse⟩ := course_check (counterpart model p) context activators history
      obtain ⟨courses, htalk, hcourses⟩ := ih (history ++ course)
      rw [counterpart_id] at hcourse
      rw [if_pos hp, hhistory, htalk, List.filter_cons_of_pos (by simpa using hp)]
      exact ⟨course :: courses, by rw [List.flatten_cons, List.append_assoc], .cons hcourse hcourses⟩
    · rw [if_neg hp, List.filter_cons_of_neg (by simpa using hp)]
      exact ih history

/-! ## Who is asked whether its condition holds -/

/-- Whether a condition holds is only asked right behind the answer that there is one. -/
def Led (said : List Exchange) : Prop :=
  ∀ before x after, said = before ++ x :: after → x.call.question = .active →
    ∃ earlier problems, before = earlier ++ [⟨{ x.call with question := .present }, problems, .ok true⟩]

namespace Led

theorem of_present {said : List Exchange} (h : ∀ x ∈ said, x.call.question = .present) : Led said := by
  rintro before x after rfl hx
  rw [h x (by simp)] at hx
  cases hx

theorem append {xs ys : List Exchange} (hxs : Led xs) (hys : Led ys) : Led (xs ++ ys) := by
  intro before x after h hx
  rcases List.append_eq_append_iff.1 h with ⟨rest, rfl, hrest⟩ | ⟨rest, rfl, hrest⟩
  · obtain ⟨earlier, problems, rfl⟩ := hys rest x after hrest hx
    exact ⟨xs ++ earlier, problems, (List.append_assoc ..).symm⟩
  · cases rest with
    | nil =>
      obtain ⟨earlier, problems, hearlier⟩ := hys [] x after hrest.symm hx
      simp at hearlier
    | cons y rest =>
      cases hrest
      exact hxs before x rest rfl hx

theorem flatten {parts : List (List Exchange)} (h : ∀ said ∈ parts, Led said) : Led parts.flatten := by
  induction parts with
  | nil => exact of_present (by simp)
  | cons said parts ih =>
    rw [List.forall_mem_cons] at h
    exact h.1.append (ih h.2)

/-- The answer to the last question is not looked at. -/
theorem cut {whole said : List Exchange} {failure : Failure} (h : Led whole)
    (hbreaks : BreaksOff failure whole said) : Led said := by
  obtain ⟨before, after, call, problems, others, answer⟩ := hbreaks
  intro first x rest heq hx
  rcases List.append_eq_append_iff.1 heq with ⟨more, rfl, hmore⟩ | ⟨more, rfl, hmore⟩
  · cases more with
    | nil =>
      cases hmore
      simpa using h before ⟨call, others, .ok answer⟩ after rfl hx
    | cons y more => simp at hmore
  · cases more with
    | nil =>
      cases hmore
      exact h first ⟨call, others, .ok answer⟩ after (by simp) hx
    | cons y more =>
      cases hmore
      exact h first x (more ++ ⟨call, others, .ok answer⟩ :: after) (by simp) hx

end Led

theorem Turn.led {id : Text} {position : Nat} {said : List Exchange} (h : Turn id position said) :
    Led said := by
  cases h with
  | absent problems => exact .of_present (by simp)
  | judged problems others active =>
    intro before x after heq hx
    cases before with
    | nil =>
      cases heq
      cases hx
    | cons _ before =>
      cases before with
      | nil =>
        cases heq
        exact ⟨[], problems, rfl⟩
      | cons _ before => simp at heq

theorem forall_mem_of_forall₂ {α β : Type} {R : α → β → Prop} {P : β → Prop} (h : ∀ a b, R a b → P b)
    {xs : List α} {ys : List β} (hR : List.Forall₂ R xs ys) : ∀ y ∈ ys, P y := by
  induction hR with
  | nil => simp
  | cons hab _ ih => exact List.forall_mem_cons.2 ⟨h _ _ hab, ih⟩

theorem Undisturbed.led {size : Nat} {id : Text} {said : List Exchange} (h : Undisturbed size id said) :
    Led said := by
  obtain ⟨first, second, rfl, hfirst, hsecond⟩ := h
  refine Led.append (.of_present ?_) (.flatten ?_)
  · refine forall_mem_of_forall₂ ?_ hfirst
    rintro _ _ ⟨_, _, rfl⟩
    rfl
  · exact forall_mem_of_forall₂ (fun _ _ h => h.led) hsecond

theorem Course.led {size : Nat} {id : Text} {said : List Exchange} (h : Course size id said) : Led said := by
  cases h with
  | whole h => exact h.led
  | cut h hbreaks => exact h.led.cut hbreaks

/-! ## Runs -/

/-- **Activators are consulted by a fixed protocol.** For each profile that the
context leaves open, in turn, all are asked whether there is a condition, then each
once more and, if it says yes, whether it holds, up to the first failure on that
profile. With activators that remember, the protocol is the same, whatever was said
before. -/
theorem consulted_by_protocol (selector : Selector) (profiles : List Profile) (context : Context)
    {model : Model} (distinct : (profiles.map (·.id)).Nodup)
    (left : Leaves (selector.interpolator.interpolate (request profiles context)) model) :
    calls (selector.resolve profiles context) =
        (profiles.filter (Undecided context ·)).flatMap (fun p =>
          (untilFailure (counterpart model p) context
            (consultations (counterpart model p) context selector.activators)).map (·.call p)) ∧
      calls (selector.resolve profiles context) =
        (converse (selector.activators.map .of) model context profiles []).map (·.call) ∧
      ∀ (activators : List Mindful) (history : List Exchange), ∃ courses,
        converse activators model context profiles history = history ++ courses.flatten ∧
        List.Forall₂ (fun p => Course activators.length p.id)
          (profiles.filter (Undecided context ·)) courses ∧
        Led courses.flatten := by
  refine ⟨?_, ?_, fun activators history => ?_⟩
  · rw [calls_resolve distinct left, flatMap_filter]
    refine List.flatMap_congr fun p _ => ?_
    rw [callsOn_eq, calls_check]
    simp only [call, counterpart_id]
  · rw [calls_resolve distinct left, calls_converse]
    rfl
  · obtain ⟨courses, hhistory, hcourses⟩ := courses_converse activators model context profiles history
    exact ⟨courses, hhistory, hcourses, .flatten (forall_mem_of_forall₂ (fun _ _ h => h.led) hcourses)⟩

/-- One activator fails on `early` when it is first asked, and on `late` only when
its condition is to hold; the one before it says no to `calm`, and the one behind it
is asked all the same. An activator that hesitates is asked twice what it first denies. -/
theorem consulted_past_failures :
    let failure : Failure := .raised .runtime none
    let strict : Activator := ⟨fun question p _ => { answer := .ok (question = .present ∨ p.id ≠ "calm") }⟩
    let frail : Activator := ⟨fun question p _ => match question with
      | .present => { answer := if p.id = "early" then .error failure else .ok true }
      | .active => { answer := if p.id = "late" then .error failure else .ok true }⟩
    let absent : Activator := ⟨fun _ _ _ => { answer := .ok false }⟩
    let hesitant : Mindful :=
      ⟨fun history _ p _ => { answer := .ok (history.any (·.call.profileId == p.id)) }⟩
    let profiles : List Profile :=
      [{ id := "early" }, { id := "off" }, { id := "late" }, { id := "on" }, { id := "calm" }]
    let context : Context := { activeIds := ["on"], inactiveIds := ["off"] }
    let selector : Selector := { activators := [strict, frail, absent] }
    let outcome := selector.interpolator.interpolate (request profiles context)
    (profiles.map (·.id)).Nodup ∧ Leaves outcome ⟨profiles⟩ ∧
      calls (selector.resolve profiles context) = [
        ⟨0, .present, "early"⟩, ⟨1, .present, "early"⟩,
        ⟨0, .present, "late"⟩, ⟨1, .present, "late"⟩, ⟨2, .present, "late"⟩,
        ⟨0, .present, "late"⟩, ⟨0, .active, "late"⟩, ⟨1, .present, "late"⟩, ⟨1, .active, "late"⟩,
        ⟨0, .present, "calm"⟩, ⟨1, .present, "calm"⟩, ⟨2, .present, "calm"⟩,
        ⟨0, .present, "calm"⟩, ⟨0, .active, "calm"⟩, ⟨1, .present, "calm"⟩, ⟨1, .active, "calm"⟩,
        ⟨2, .present, "calm"⟩] ∧
      ∃ courses, converse [hesitant] ⟨profiles⟩ context profiles [] = courses.flatten ∧
        List.Forall₂ (fun p : Profile => Course 1 p.id)
          [{ id := "early" }, { id := "late" }, { id := "calm" }] courses ∧
        courses.flatten = [
          ⟨⟨0, .present, "early"⟩, [], .ok false⟩, ⟨⟨0, .present, "early"⟩, [], .ok true⟩,
          ⟨⟨0, .active, "early"⟩, [], .ok true⟩,
          ⟨⟨0, .present, "late"⟩, [], .ok false⟩, ⟨⟨0, .present, "late"⟩, [], .ok true⟩,
          ⟨⟨0, .active, "late"⟩, [], .ok true⟩,
          ⟨⟨0, .present, "calm"⟩, [], .ok false⟩, ⟨⟨0, .present, "calm"⟩, [], .ok true⟩,
          ⟨⟨0, .active, "calm"⟩, [], .ok true⟩] := by
  intro failure strict frail absent hesitant profiles context selector outcome
  have distinct : (profiles.map (·.id)).Nodup := by decide
  have left : Leaves outcome ⟨profiles⟩ := .handed rfl
  obtain ⟨hcalls, -, hcourses⟩ := consulted_by_protocol selector profiles context distinct left
  obtain ⟨courses, hsaid, hall, -⟩ := hcourses [hesitant] []
  exact ⟨distinct, left, hcalls.trans rfl, courses, hsaid, hall, hsaid.symm.trans rfl⟩

end BuildProfiles.Resolution
