/-
How the activators are consulted about one profile.

`consultations` lists the questions of an undisturbed check: first whether each
activator has a condition to judge, then that question again, and behind it
whether the condition holds if there is one. A check asks them in this order
and stops behind the first that fails (`follows_check`), so what it leaves
behind and what it answers are read off the list. `conditionMet_iff` compares
the answer with the declared meaning of a condition.
-/
import BuildProfiles.Resolution

namespace BuildProfiles.Resolution

/-- One question to the activator at a position of the list. -/
structure Consultation where
  activator : Activator × Nat
  question : Question

namespace Consultation

variable (profile : Profile) (context : Context)

/-- What the activator says. -/
def reply (c : Consultation) : Reply := c.activator.1.reply c.question profile context

/-- The call that is made. -/
def call (c : Consultation) : Call := ⟨c.activator.2, c.question, profile.id⟩

/-- What asking leaves behind: the call, and the problems reported on it. -/
def events (c : Consultation) : List Event :=
  .called (c.call profile) :: (c.reply profile context).problems.map .reported

/-- The failure, if the activator fails instead of answering. -/
def failure? (c : Consultation) : Option Failure :=
  match (c.reply profile context).answer with
  | .ok _ => none
  | .error failure => some failure

/-- The answer, where a failure counts as no. -/
def affirms (c : Consultation) : Bool :=
  match (c.reply profile context).answer with
  | .ok answer => answer
  | .error _ => false

theorem problems_events (c : Consultation) :
    (c.events profile context).filterMap Event.problem? = (c.reply profile context).problems := by
  rw [events, List.filterMap_cons_none rfl, List.filterMap_map]
  exact List.filterMap_some

theorem calls_events (c : Consultation) :
    (c.events profile context).filterMap Event.call? = [c.call profile] := by
  rw [events, List.filterMap_cons_some (f := Event.call?) rfl, List.filterMap_map]
  exact congrArg _ (List.filterMap_eq_nil_iff.2 fun _ _ => rfl)

/-- The first failure of a plan. -/
def firstFailure? (plan : List Consultation) : Option Failure :=
  plan.findSome? (·.failure? profile context)

/-- The consultations up to and with the first that fails. -/
def untilFailure : List Consultation → List Consultation
  | [] => []
  | c :: plan => if (c.failure? profile context).isSome then [c] else c :: untilFailure plan

variable {profile context}

theorem firstFailure?_eq_none_iff {plan : List Consultation} :
    firstFailure? profile context plan = none ↔ ∀ c ∈ plan, c.failure? profile context = none :=
  List.findSome?_eq_none_iff

theorem firstFailure?_append (xs ys : List Consultation) :
    firstFailure? profile context (xs ++ ys) =
      (firstFailure? profile context xs).or (firstFailure? profile context ys) :=
  List.findSome?_append

theorem untilFailure_append_of_failure {xs ys : List Consultation} {failure : Failure}
    (h : firstFailure? profile context xs = some failure) :
    untilFailure profile context (xs ++ ys) = untilFailure profile context xs := by
  induction xs with
  | nil => cases h
  | cons c xs ih =>
    rw [List.cons_append, untilFailure, untilFailure]
    split
    · rfl
    · rename_i hc
      rw [firstFailure?, List.findSome?_cons, Option.not_isSome_iff_eq_none.1 hc] at h
      rw [ih h]

theorem untilFailure_append {xs : List Consultation} (h : firstFailure? profile context xs = none)
    (ys : List Consultation) :
    untilFailure profile context (xs ++ ys) = xs ++ untilFailure profile context ys := by
  induction xs with
  | nil => rfl
  | cons c xs ih =>
    rw [firstFailure?_eq_none_iff] at h
    have hc : (c.failure? profile context).isSome = false := by simp [h c (by simp)]
    have hxs : firstFailure? profile context xs = none :=
      firstFailure?_eq_none_iff.2 fun d hd => h d (List.mem_cons_of_mem _ hd)
    rw [List.cons_append, untilFailure, hc, if_neg (by simp), ih hxs, List.cons_append]

theorem untilFailure_eq_self {xs : List Consultation} (h : firstFailure? profile context xs = none) :
    untilFailure profile context xs = xs := by
  simpa [untilFailure] using untilFailure_append h []

/-- A plan that is split at its first failure. -/
theorem untilFailure_split {before after : List Consultation} {c : Consultation} {failure : Failure}
    (hbefore : ∀ d ∈ before, d.failure? profile context = none)
    (hc : c.failure? profile context = some failure) :
    firstFailure? profile context (before ++ c :: after) = some failure ∧
      untilFailure profile context (before ++ c :: after) = before ++ [c] := by
  have hnone : firstFailure? profile context before = none := firstFailure?_eq_none_iff.2 hbefore
  refine ⟨?_, ?_⟩
  · rw [firstFailure?_append, hnone, Option.none_or, firstFailure?, List.findSome?_cons, hc]
  · rw [untilFailure_append hnone, untilFailure, hc]
    rfl

end Consultation

open Consultation

variable (profile : Profile) (context : Context)

/-- `run` asks the questions of `plan` in order, up to the first that fails. It
ends with that failure, and else with `value`. -/
structure Follows {α : Type} (run : Traced α) (plan : List Consultation) (value : α) : Prop where
  events : run.events = (untilFailure profile context plan).flatMap (·.events profile context)
  result : run.result = match firstFailure? profile context plan with
    | some failure => .error failure
    | none => .ok value

variable {profile context}

theorem Follows.pure {α : Type} (a : α) : Follows profile context (pure a) [] a := ⟨rfl, rfl⟩

theorem Follows.ask (activator : Activator × Nat) (question : Question) :
    Follows profile context (ask activator question profile context) [⟨activator, question⟩]
      (Consultation.affirms profile context ⟨activator, question⟩) := by
  refine ⟨?_, ?_⟩
  · simp only [untilFailure, ite_self, List.flatMap_singleton]
    rfl
  · simp only [firstFailure?, List.findSome?_cons, List.findSome?_nil, failure?, affirms, reply,
      Resolution.ask]
    cases (activator.1.reply question profile context).answer <;> rfl

theorem Follows.bind {α β : Type} {x : Traced α} {f : α → Traced β} {plan more : List Consultation}
    {a : α} {b : β} (hx : Follows profile context x plan a) (hf : Follows profile context (f a) more b) :
    Follows profile context (x >>= f) (plan ++ more) b := by
  cases h : firstFailure? profile context plan with
  | some failure =>
    -- Nothing of `more` is asked: both sides stop at this failure.
    have hr : x.result = .error failure := by rw [hx.result, h]
    refine ⟨?_, ?_⟩
    · rw [Traced.bind_of_error hr, hx.events, untilFailure_append_of_failure h]
    · rw [Traced.bind_of_error hr, firstFailure?_append, h]
      rfl
  | none =>
    have hr : x.result = .ok a := by rw [hx.result, h]
    refine ⟨?_, ?_⟩
    · rw [Traced.bind_of_ok hr, hx.events, hf.events, untilFailure_append h, untilFailure_eq_self h,
        List.flatMap_append]
    · rw [Traced.bind_of_ok hr, hf.result, firstFailure?_append, h, Option.none_or]

/-- What is done with the value asks nothing more. -/
theorem Follows.map {α β : Type} {x : Traced α} {plan : List Consultation} {a : α} (f : α → β)
    (hx : Follows profile context x plan a) :
    Follows profile context (x >>= fun a => Pure.pure (f a)) plan (f a) := by
  rw [← List.append_nil plan]
  exact hx.bind (.pure (f a))

/-! ## The two passes of a check -/

variable (profile context)

/-- What the second pass asks an activator. -/
def round (activator : Activator × Nat) : List Consultation :=
  ⟨activator, .present⟩ ::
    if Consultation.affirms profile context ⟨activator, .present⟩ then [⟨activator, .active⟩] else []

/-- The questions of a check on which nothing fails. -/
def consultations (activators : List Activator) : List Consultation :=
  activators.zipIdx.map (⟨·, .present⟩) ++ activators.zipIdx.flatMap (round profile context)

/-- The answer of a check on which nothing fails. -/
def allHold (activators : List (Activator × Nat)) : Bool :=
  activators.any (fun a => Consultation.affirms profile context ⟨a, .present⟩) &&
    activators.all (fun a => !Consultation.affirms profile context ⟨a, .present⟩ ||
      Consultation.affirms profile context ⟨a, .active⟩)

variable {profile context}

theorem follows_somePresent (activators : List (Activator × Nat)) :
    Follows profile context (somePresent profile context activators) (activators.map (⟨·, .present⟩))
      (activators.any fun a => Consultation.affirms profile context ⟨a, .present⟩) := by
  induction activators with
  | nil => exact .pure false
  | cons activator activators ih =>
    rw [somePresent, List.map_cons, List.any_cons]
    exact (Follows.ask activator .present).bind (ih.map _)

theorem follows_allActive (activators : List (Activator × Nat)) :
    Follows profile context (allActive profile context activators)
      (activators.flatMap (round profile context))
      (activators.all fun a => !Consultation.affirms profile context ⟨a, .present⟩ ||
        Consultation.affirms profile context ⟨a, .active⟩) := by
  induction activators with
  | nil => exact .pure true
  | cons activator activators ih =>
    rw [allActive, List.flatMap_cons, round, List.cons_append, List.all_cons]
    refine (Follows.ask activator .present).bind ?_
    cases Consultation.affirms profile context ⟨activator, .present⟩ with
    | false => exact (Follows.pure true).bind (ih.map _)
    | true => exact (Follows.ask activator .active).bind (ih.map _)

/-- **A check asks its consultations in order, up to the first that fails.** -/
theorem follows_check (activators : List Activator) (profile : Profile) (context : Context) :
    Follows profile context (check activators profile context)
      (consultations profile context activators) (allHold profile context activators.zipIdx) :=
  (follows_somePresent activators.zipIdx).bind ((follows_allActive activators.zipIdx).map _)

/-! ## Whether the conditions hold -/

theorem conditionHolds_of_failure {activators : List Activator} {failure : Failure}
    (location : Option Location)
    (h : firstFailure? profile context (consultations profile context activators) = some failure) :
    ∃ note, conditionHolds activators profile location context =
      (false, (untilFailure profile context (consultations profile context activators)).flatMap
        (·.events profile context) ++
          [.logged note, .reported (checkProblem profile.id location failure)]) := by
  have hc := follows_check activators profile context
  have hr := hc.result
  rw [h] at hr
  simp only [conditionHolds, contain, hr, hc.events]
  exact ⟨_, rfl⟩

theorem conditionHolds_of_none {activators : List Activator} (location : Option Location)
    (h : firstFailure? profile context (consultations profile context activators) = none) :
    conditionHolds activators profile location context =
      (allHold profile context activators.zipIdx,
        (consultations profile context activators).flatMap (·.events profile context)) := by
  have hc := follows_check activators profile context
  have hr := hc.result
  rw [h] at hr
  simp only [conditionHolds, contain, hr, hc.events, untilFailure_eq_self h]

/-- The conditions of a profile hold: no activator fails on it, some activator
has a condition to judge, and every one that has says yes. -/
structure ConditionMet (activators : List Activator) (profile : Profile) (context : Context) : Prop where
  answered : ∀ a ∈ activators, ∃ present, (a.reply .present profile context).answer = .ok present
  judged : ∃ a ∈ activators, (a.reply .present profile context).answer = .ok true
  held : ∀ a ∈ activators, (a.reply .present profile context).answer = .ok true →
    (a.reply .active profile context).answer = .ok true

theorem failure?_eq_none_iff {c : Consultation} :
    c.failure? profile context = none ↔ ∃ answer, (c.reply profile context).answer = .ok answer := by
  unfold failure?
  split <;> simp_all

theorem affirms_iff {c : Consultation} :
    c.affirms profile context = true ↔ (c.reply profile context).answer = .ok true := by
  unfold affirms
  split <;> simp_all

/-- Nothing fails on a profile iff neither pass meets a failure. -/
theorem firstFailure?_consultations_iff {activators : List Activator} :
    firstFailure? profile context (consultations profile context activators) = none ↔
      ∀ a ∈ activators.zipIdx, failure? profile context ⟨a, .present⟩ = none ∧
        (affirms profile context ⟨a, .present⟩ = true → failure? profile context ⟨a, .active⟩ = none) := by
  rw [consultations, firstFailure?_append, Option.or_eq_none_iff, firstFailure?_eq_none_iff,
    firstFailure?_eq_none_iff]
  simp only [List.mem_map, List.mem_flatMap, round, List.mem_cons, List.mem_ite_nil_right,
    List.not_mem_nil, or_false]
  constructor
  · intro ⟨first, second⟩ a ha
    exact ⟨first _ ⟨a, ha, rfl⟩, fun hs => second _ ⟨a, ha, .inr ⟨hs, rfl⟩⟩⟩
  · intro h
    refine ⟨?_, ?_⟩
    · intro c ⟨a, ha, hc⟩
      subst hc
      exact (h a ha).1
    · intro c ⟨a, ha, hc⟩
      rcases hc with rfl | ⟨hs, rfl⟩
      · exact (h a ha).1
      · exact (h a ha).2 hs

theorem exists_mem_zipIdx {α : Type} {xs : List α} {a : α} (h : a ∈ xs) : ∃ i, (a, i) ∈ xs.zipIdx := by
  obtain ⟨i, hi⟩ := List.mem_iff_getElem?.1 h
  exact ⟨i, List.mk_mem_zipIdx_iff_getElem?.2 hi⟩

/-- **The declared meaning of a condition is what a check finds out**: nothing
failed, and its answer was yes. -/
theorem conditionMet_iff {activators : List Activator} :
    ConditionMet activators profile context ↔
      firstFailure? profile context (consultations profile context activators) = none ∧
        allHold profile context activators.zipIdx = true := by
  rw [firstFailure?_consultations_iff, allHold]
  simp only [Bool.and_eq_true, List.any_eq_true, List.all_eq_true, Bool.or_eq_true, Bool.not_eq_true',
    ← Bool.not_eq_true, affirms_iff, failure?_eq_none_iff]
  constructor
  · intro ⟨answered, ⟨b, hb, judged⟩, held⟩
    obtain ⟨i, hi⟩ := exists_mem_zipIdx hb
    refine ⟨fun a ha => ?_, ⟨(b, i), hi, judged⟩, fun a ha => ?_⟩
    · have hmem := List.fst_mem_of_mem_zipIdx ha
      exact ⟨answered _ hmem, fun hs => ⟨true, held _ hmem hs⟩⟩
    · by_cases hs : (a.1.reply .present profile context).answer = .ok true
      · exact .inr (held _ (List.fst_mem_of_mem_zipIdx ha) hs)
      · exact .inl hs
  · intro ⟨quiet, ⟨b, hb, judged⟩, held⟩
    refine ⟨fun a ha => ?_, ⟨b.1, List.fst_mem_of_mem_zipIdx hb, judged⟩, fun a ha hs => ?_⟩
    · obtain ⟨i, hi⟩ := exists_mem_zipIdx ha
      exact (quiet (a, i) hi).1
    · obtain ⟨i, hi⟩ := exists_mem_zipIdx ha
      exact (held (a, i) hi).resolve_left fun hn => hn hs

/-- Whether the conditions hold is what they declare, failures counting as no. -/
theorem conditionHolds_iff {activators : List Activator} {location : Option Location} :
    (conditionHolds activators profile location context).1 = true ↔
      ConditionMet activators profile context := by
  rw [conditionMet_iff]
  cases h : firstFailure? profile context (consultations profile context activators) with
  | some failure =>
    obtain ⟨note, hc⟩ := conditionHolds_of_failure location h
    simp [hc]
  | none => simp [conditionHolds_of_none location h]

instance (activators : List Activator) (profile : Profile) (context : Context) :
    Decidable (ConditionMet activators profile context) :=
  decidable_of_iff ((conditionHolds activators profile none context).1 = true) conditionHolds_iff

end BuildProfiles.Resolution
