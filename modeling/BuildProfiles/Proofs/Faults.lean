/-
The faults that the standard selector finds in conditions.

`faults` reads off a profile what is wrong with its conditions: a condition on a
property that names none, and a requirement on the JDK where the version is not
known or cannot be judged. The last question of a check is the only one that can
fail (`asked_standard`), so a fault never hides another one, and the problems
reported are those of the faults (`problems_conditionHolds`).
-/
import BuildProfiles.Proofs.Requirements
import BuildProfiles.Proofs.Standard

namespace BuildProfiles

/-- The condition names no property: there is no name, or an empty one, or
nothing behind the mark of negation. -/
def PropertyCondition.Nameless (condition : PropertyCondition) : Prop :=
  condition.name = none ∨ condition.name = some ("" : Text) ∨ condition.name = some ("!" : Text)

instance (condition : PropertyCondition) : Decidable condition.Nameless :=
  inferInstanceAs (Decidable (_ ∨ _))

theorem negation_eq_empty_iff {text : Text} : (negation text).2 = "" ↔ text = "" ∨ text = "!" := by
  unfold negation
  split
  · rename_i rest h
    rw [← Text.toList_inj, ← Text.toList_inj, ← Text.toList_inj, h, Text.toList_ofList]
    simp
  · rename_i h
    have hmark : text ≠ "!" := by rintro rfl; exact h [] rfl
    simp [hmark]

theorem PropertyCondition.nameless_iff {condition : PropertyCondition} :
    condition.Nameless ↔ (negation (condition.name.getD "")).2 = "" := by
  rw [negation_eq_empty_iff, Nameless]
  cases condition.name <;> simp

namespace Resolution

open Consultation

/-- Something wrong with the conditions of a profile. -/
inductive Fault where
  | nameless
  | unknownVersion
  | unjudged (error : VersionError)
  deriving DecidableEq, Repr

namespace Fault

/-- What is said about the fault in the profile of that id. -/
def message (id : Text) : Fault → Text
  | nameless => "The property name is required to activate the profile " ++ id
  | unknownVersion => "Failed to determine Java version for profile " ++ id
  | unjudged _ => "Failed to determine activation for profile " ++ id

/-- The failure that the fault consists in. -/
def failure? : Fault → Option Failure
  | nameless => none
  | unknownVersion => none
  | unjudged error => some (.version error)

/-- The report of the fault, with a place to point to. -/
def report (id : Text) (location : Option Location) (fault : Fault) : Problem where
  severity := .error
  version := .base
  message := fault.message id
  location := location
  failure := fault.failure?

end Fault

def nameFaults (q : Profile) : List Fault :=
  match q.property? with
  | none => []
  | some condition => if condition.Nameless then [.nameless] else []

def versionFaults (context : Context) (q : Profile) : List Fault :=
  match q.jdk? with
  | none => []
  | some requirement =>
    match context.systemProperties.get? "java.version" with
    | none => [.unknownVersion]
    | some version =>
      if version = "" then [.unknownVersion]
      else match Version.satisfies version requirement with
        | .ok _ => []
        | .error error => [.unjudged error]

/-- The faults in the conditions of a profile, in the order in which they are found. -/
def faults (context : Context) (q : Profile) : List Fault := nameFaults q ++ versionFaults context q

/-! ## What the activators say -/

variable {context : Context} {q : Profile}

/-- The report of a fault in `q`. A failure is reported by the selector, which
points to the declaration; the rest by the activators, which point to where `q`
says. -/
def Fault.reportOn (q : Profile) (declared : Option Location) (fault : Fault) : Problem :=
  fault.report q.id (if fault.failure?.isSome then declared else q.location)

theorem reply_property_active (q : Profile) (context : Context) (declared : Option Location) :
    (Activator.property.reply .active q context).problems =
        (nameFaults q).map (Fault.reportOn q declared) ∧
      ∃ answer, (Activator.property.reply .active q context).answer = .ok answer ∧
        (nameFaults q ≠ [] → answer = false) := by
  simp only [Activator.property, nameFaults]
  cases q.property? with
  | none => exact ⟨rfl, false, rfl, fun _ => rfl⟩
  | some condition =>
    by_cases h : condition.Nameless
    · simp only [PropertyCondition.nameless_iff.1 h, if_pos h, if_pos]
      exact ⟨rfl, false, rfl, fun _ => rfl⟩
    · simp only [if_neg h, if_neg (PropertyCondition.nameless_iff.not.1 h)]
      exact ⟨rfl, _, rfl, fun h => absurd rfl h⟩

theorem reply_jdk_active (q : Profile) (context : Context) (declared : Option Location) (i : Nat) :
    (Activator.jdk.reply .active q context).problems ++
        (failure? q context ⟨(Activator.jdk, i), .active⟩).toList.map (checkProblem q.id declared) =
      (versionFaults context q).map (Fault.reportOn q declared) ∧
    (versionFaults context q ≠ [] → (Activator.jdk.reply .active q context).answer ≠ .ok true) := by
  have hname : ("java.version" : Text) = Activator.jdkVersionName := rfl
  simp only [failure?, reply, Activator.jdk, versionFaults, hname]
  cases q.jdk? with
  | none => exact ⟨rfl, fun h => absurd rfl h⟩
  | some requirement =>
    dsimp only
    cases context.systemProperties.get? Activator.jdkVersionName with
    | none => exact ⟨rfl, fun _ h => by cases h⟩
    | some version =>
      by_cases h : version = ""
      · subst h
        exact ⟨rfl, fun _ h => by cases h⟩
      · simp only [Option.getD_some, if_neg h]
        cases Version.satisfies version requirement with
        | ok answer => exact ⟨rfl, fun h => absurd rfl h⟩
        | error e => exact ⟨rfl, fun _ h => by cases h⟩

/-! ## What a check of the standard activators asks -/

/-- The question whose answer may be a failure; it is the last one. -/
def lastAsked (q : Profile) : List Consultation :=
  if q.jdk?.isSome then [⟨(Activator.jdk, 1), .active⟩] else []

/-- The questions before. -/
def firstAsked (q : Profile) : List Consultation :=
  [⟨(Activator.property, 0), .present⟩, ⟨(Activator.jdk, 1), .present⟩,
    ⟨(Activator.property, 0), .present⟩] ++
  (if q.property?.isSome then [⟨(Activator.property, 0), .active⟩] else []) ++
  [⟨(Activator.jdk, 1), .present⟩]

theorem consultations_standard (q : Profile) (context : Context) :
    consultations q context Activator.standard = firstAsked q ++ lastAsked q := by
  have hproperty : affirms q context ⟨(Activator.property, 0), .present⟩ = q.property?.isSome := rfl
  have hjdk : affirms q context ⟨(Activator.jdk, 1), .present⟩ = q.jdk?.isSome := rfl
  rw [consultations, show Activator.standard.zipIdx = [(Activator.property, 0), (Activator.jdk, 1)] from rfl]
  simp only [List.map_cons, List.map_nil, List.flatMap_cons, List.flatMap_nil, round, hproperty, hjdk,
    firstAsked, lastAsked, List.cons_append, List.nil_append, List.append_assoc, List.append_nil]

theorem firstAsked_quiet (q : Profile) (context : Context) :
    firstFailure? q context (firstAsked q) = none := by
  obtain ⟨-, answer, hanswer, -⟩ := reply_property_active q context none
  have hactive : failure? q context ⟨(Activator.property, 0), .active⟩ = none :=
    failure?_eq_none_iff.2 ⟨answer, hanswer⟩
  rw [firstFailure?_eq_none_iff]
  intro c hc
  simp only [firstAsked, List.mem_append, List.mem_cons, List.mem_ite_nil_right, List.not_mem_nil,
    or_false] at hc
  rcases hc with ((rfl | rfl | rfl) | ⟨-, rfl⟩) | rfl
  · rfl
  · rfl
  · rfl
  · exact hactive
  · rfl

/-- All that is asked is asked whatever fails. -/
theorem asked_standard (q : Profile) (context : Context) :
    untilFailure q context (consultations q context Activator.standard) =
      firstAsked q ++ lastAsked q := by
  rw [consultations_standard, untilFailure_append (firstAsked_quiet q context), lastAsked]
  split
  · -- Its failure would cut off what is asked behind it, which is nothing.
    rw [untilFailure]
    split <;> rfl
  · rfl

/-- The problems of a check, whatever the activators. -/
theorem problems_conditionHolds {activators : List Activator} (location : Option Location) :
    (conditionHolds activators q location context).2.filterMap Event.problem? =
      (untilFailure q context (consultations q context activators)).flatMap
          (fun c => (c.reply q context).problems) ++
        (firstFailure? q context (consultations q context activators)).toList.map
          (checkProblem q.id location) := by
  cases h : firstFailure? q context (consultations q context activators) with
  | none =>
    rw [conditionHolds_of_none location h, untilFailure_eq_self h]
    simp only [List.filterMap_flatMap, problems_events, Option.toList_none, List.map_nil, List.append_nil]
  | some failure =>
    obtain ⟨note, hc⟩ := conditionHolds_of_failure location h
    rw [hc]
    simp only [List.filterMap_append, List.filterMap_flatMap, problems_events]
    rfl

theorem problems_firstAsked (q : Profile) (context : Context) (declared : Option Location) :
    (firstAsked q).flatMap (fun c => (c.reply q context).problems) =
      (nameFaults q).map (Fault.reportOn q declared) := by
  obtain ⟨hproblems, -⟩ := reply_property_active q context declared
  cases h : q.property? with
  | none =>
    have hnone : nameFaults q = [] := by rw [nameFaults, h]
    simp only [firstAsked, h, hnone]
    rfl
  | some condition =>
    have hproperty : (reply q context ⟨(Activator.property, 0), .present⟩).problems = [] := rfl
    have hjdk : (reply q context ⟨(Activator.jdk, 1), .present⟩).problems = [] := rfl
    rw [← hproblems]
    simp only [firstAsked, h, Option.isSome_some, if_true, List.flatMap_append, List.flatMap_cons,
      List.flatMap_nil, hproperty, hjdk, List.nil_append, List.append_nil]
    rfl

theorem problems_lastAsked (q : Profile) (context : Context) (declared : Option Location) :
    (lastAsked q).flatMap (fun c => (c.reply q context).problems) ++
        (firstFailure? q context (lastAsked q)).toList.map (checkProblem q.id declared) =
      (versionFaults context q).map (Fault.reportOn q declared) := by
  cases h : q.jdk? with
  | none =>
    have hnone : versionFaults context q = [] := by rw [versionFaults, h]
    simp only [lastAsked, h, hnone]
    rfl
  | some requirement =>
    rw [← (reply_jdk_active q context declared 1).1]
    simp only [lastAsked, h, Option.isSome_some, if_true, List.flatMap_singleton, firstFailure?,
      List.findSome?_singleton]
    rfl

/-- **The problems of a check are the reports of the faults.** -/
theorem problems_conditionHolds_standard (q : Profile) (context : Context) (declared : Option Location) :
    (conditionHolds Activator.standard q declared context).2.filterMap Event.problem? =
      (faults context q).map (Fault.reportOn q declared) := by
  rw [problems_conditionHolds, asked_standard, consultations_standard, firstFailure?_append,
    firstAsked_quiet, Option.none_or, List.flatMap_append, problems_firstAsked q context declared,
    List.append_assoc, problems_lastAsked, faults, List.map_append]

theorem not_conditionMet_of_faults (h : faults context q ≠ []) :
    ¬ ConditionMet Activator.standard q context := by
  -- The activator that finds the fault has a condition to judge and does not say yes.
  intro ⟨_, _, held⟩
  obtain ⟨-, answer, hanswer, hfalse⟩ := reply_property_active q context none
  obtain ⟨-, hjdk⟩ := reply_jdk_active q context none 1
  by_cases hname : nameFaults q = []
  · have hversion : versionFaults context q ≠ [] := by
      rwa [faults, hname, List.nil_append] at h
    cases hq : q.jdk? with
    | none => exact hversion (by rw [versionFaults, hq])
    | some requirement =>
      refine hjdk hversion (held Activator.jdk (by simp [Activator.standard]) ?_)
      simp [Activator.jdk, hq]
  · cases hq : q.property? with
    | none => exact hname (by rw [nameFaults, hq])
    | some condition =>
      have hpresent : (Activator.property.reply .present q context).answer = .ok true := by
        simp [Activator.property, hq]
      have hheld := held Activator.property (by simp [Activator.standard]) hpresent
      rw [hanswer, hfalse hname] at hheld
      cases hheld

/-! ## What a resolution reports -/

variable {profiles : List Profile} {p : Profile}

/-- The context says nothing of the profile, so that its conditions are looked at. -/
def Undecided (context : Context) (p : Profile) : Prop :=
  p.id ∉ context.inactiveIds ∧ p.id ∉ context.activeIds

instance (context : Context) (p : Profile) : Decidable (Undecided context p) :=
  inferInstanceAs (Decidable (_ ∧ _))

theorem inactive_or_active {context : Context} (h : ¬ Undecided context p) :
    p.id ∈ context.inactiveIds ∨ p.id ∉ context.inactiveIds ∧ p.id ∈ context.activeIds := by
  by_cases hinactive : p.id ∈ context.inactiveIds
  · exact .inl hinactive
  · refine .inr ⟨hinactive, ?_⟩
    by_contra hactive
    exact h ⟨hinactive, hactive⟩

/-- A verdict that the context gives only leaves remarks behind. -/
theorem filterMap_judge_of_decided {β : Type} {f : Event → Option β} (hl : ∀ r, f (.logged r) = none)
    {activators : List Activator} {model : Model} (h : ¬ Undecided context p) :
    (judge activators model context p).2.filterMap f = [] := by
  obtain hinactive | ⟨hinactive, hactive⟩ := inactive_or_active h
  · rw [judge_of_inactive hinactive]
    exact List.filterMap_cons_none (hl _)
  · rw [judge_of_active hinactive hactive]
    rfl

theorem problemsAlone_eq (context : Context) (p : Profile) :
    problemsAlone context p =
      if Undecided context p then
        (faults context (expanded context p)).map (Fault.reportOn (expanded context p) p.location)
      else [] := by
  split
  · rename_i h
    rw [problemsAlone, judgeAlone_of_undecided h.1 h.2, problems_conditionHolds_standard]
  · rename_i h
    exact filterMap_judge_of_decided (fun _ => rfl) h

theorem flatMap_filter {α β : Type} (c : α → Prop) [DecidablePred c] (f : α → List β) (xs : List α) :
    (xs.filter (c ·)).flatMap f = xs.flatMap fun x => if c x then f x else [] := by
  induction xs with
  | nil => rfl
  | cons x xs ih =>
    rw [List.flatMap_cons, ← ih, List.filter_cons]
    by_cases h : c x <;> simp [h]

theorem unjudged_notMem_nameFaults (error : VersionError) : Fault.unjudged error ∉ nameFaults q := by
  unfold nameFaults
  split
  · exact List.not_mem_nil
  · split <;> simp

theorem unjudged_mem_versionFaults {error : VersionError} (h : Fault.unjudged error ∈ versionFaults context q) :
    ∃ version requirement, Version.satisfies version requirement = .error error := by
  unfold versionFaults at h
  split at h
  · cases h
  · split at h
    · simp at h
    · split at h
      · simp at h
      · split at h
        · cases h
        · rename_i he
          cases List.mem_singleton.1 h
          exact ⟨_, _, he⟩

/-- A failure that is a fault is a version that cannot be read. -/
theorem failure_name_of_fault {fault : Fault} {failure : Failure} (hmem : fault ∈ faults context q)
    (hfailure : fault.failure? = some failure) : failure.name = "VersionRangeError" := by
  cases fault with
  | nameless => cases hfailure
  | unknownVersion => cases hfailure
  | unjudged error =>
    cases hfailure
    have hversion := (List.mem_append.1 hmem).resolve_left (unjudged_notMem_nameFaults error)
    obtain ⟨version, requirement, h⟩ := unjudged_mem_versionFaults hversion
    obtain ⟨text, rfl⟩ := Version.satisfies_error h
    rfl

/-- The problem, no matter where it points to. -/
def unplaced (problem : Problem) : Problem := { problem with location := none }

/-- **The standard selector reports the faults, all of them and nothing else**:
in the order of the profiles that the context leaves undecided, for each what
is wrong with its expanded conditions. -/
theorem problems_are_faults (distinct : (profiles.map (·.id)).Nodup) (context : Context) :
    (problems (Selector.standard.resolve profiles context)).map unplaced =
      (profiles.filter (Undecided context ·)).flatMap (fun p =>
        (faults context (expanded context p)).map (Fault.report p.id none)) ∧
    (∀ p ∈ profiles, StandsFor (expandedModel profiles context) p (expanded context p)) ∧
    (∀ p ∈ profiles, p.id ∉ context.activeIds → faults context (expanded context p) ≠ [] →
      ¬ Selected Activator.standard (expandedModel profiles context) context p) ∧
    ∀ problem ∈ problems (Selector.standard.resolve profiles context),
      ∀ failure ∈ problem.failure, failure.name = "VersionRangeError" := by
  refine ⟨?_, fun p hp => standsFor_expanded distinct hp context, fun p hp ha hfaults => ?_, ?_⟩
  · rw [problems_standard distinct, List.map_flatMap, flatMap_filter]
    refine List.flatMap_congr fun p _ => ?_
    rw [problemsAlone_eq]
    split
    · rw [List.map_map]
      rfl
    · rfl
  · intro ⟨_, hs⟩
    rcases hs with hs | ⟨r, hr, hs⟩
    · exact ha hs
    · rw [← standsFor_iff.1 hr, standsFor_iff.1 (standsFor_expanded distinct hp context)] at hs
      exact not_conditionMet_of_faults hfaults hs
  · intro problem hmem failure hfailure
    rw [problems_standard distinct, List.mem_flatMap] at hmem
    obtain ⟨p, -, hmem⟩ := hmem
    rw [problemsAlone_eq] at hmem
    split at hmem
    · obtain ⟨fault, hfault, rfl⟩ := List.mem_map.1 hmem
      exact failure_name_of_fault hfault hfailure
    · cases hmem

/-- The first profile has two faults, found in this order; the second one is
selected, so its fault is not looked for. -/
theorem two_faults_reported :
    let docs : Profile :=
      { id := "docs"
        activation := some { property := some { name := some "${key}" }, jdk := some "[11,)" } }
    let ci : Profile := { id := "ci", activation := some { property := some {} } }
    let context : Context :=
      { activeIds := ["ci"], systemProperties := .ofList [("key", "!"), ("java.version", "17-ea")] }
    (([docs, ci].map (·.id)).Nodup ∧ docs ∈ [docs, ci] ∧ docs.id ∉ context.activeIds ∧
        faults context (expanded context docs) ≠ []) ∧
      (problems (Selector.standard.resolve [docs, ci] context)).map unplaced =
        [Fault.nameless.report "docs" none, (Fault.unjudged (.nonNumeric "17-ea")).report "docs" none] ∧
      ¬ Selected Activator.standard (expandedModel [docs, ci] context) context docs := by
  intro docs ci context
  have distinct : ([docs, ci].map (·.id)).Nodup := by decide
  have hmem : docs ∈ [docs, ci] := by simp
  have hfaults : faults context (expanded context docs) ≠ [] := by decide +kernel
  obtain ⟨hproblems, -, hselected, -⟩ := problems_are_faults distinct context
  have ha : docs.id ∉ context.activeIds := by decide
  refine ⟨⟨distinct, hmem, ha, hfaults⟩, hproblems.trans ?_, hselected docs hmem ha hfaults⟩
  decide +kernel

/-! ## Where the problems point to -/

/-- **Where the problems on a profile point to.** A failure is reported at the
declaration of the profile. What the activators report themselves points
nowhere, since the profile that they are handed has no location; so it is at the
declaration only if that is not known. -/
theorem location_of_reported_iff (distinct : (profiles.map (·.id)).Nodup) (context : Context) :
    problems (Selector.standard.resolve profiles context) =
      profiles.flatMap (problemsOn Activator.standard (expandedModel profiles context) context) ∧
    ∀ p ∈ profiles, ∀ problem ∈ problemsOn Activator.standard (expandedModel profiles context) context p,
      (problem.location = p.location ↔ problem.failure.isSome = true ∨ p.location = none) := by
  refine ⟨problems_resolve distinct (leaves_standard profiles context), fun p hp problem hmem => ?_⟩
  rw [problemsOn, judge_standard distinct hp, ← problemsAlone, problemsAlone_eq] at hmem
  split at hmem
  · obtain ⟨fault, -, rfl⟩ := List.mem_map.1 hmem
    -- The interpolator is handed profiles without their locations.
    have hnowhere : (expanded context p).location = none := rfl
    simp only [Fault.reportOn, Fault.report, hnowhere]
    cases fault.failure? <;> simp [eq_comm]
  · cases hmem

/-- Both faults of the profile are reported, and only the failure at its declaration. -/
theorem failure_reported_at_declaration :
    let docs : Profile :=
      { id := "docs"
        activation := some { property := some {}, jdk := some "[11,)" }
        location := some { source := some "profiles.json", index := some 0 } }
    let context : Context := { systemProperties := .ofList [("java.version", "17-ea")] }
    let nameless := Fault.nameless.report "docs" none
    let unjudged := (Fault.unjudged (.nonNumeric "17-ea")).report "docs" docs.location
    let reported := problemsOn Activator.standard (expandedModel [docs] context) context docs
    (([docs].map (·.id)).Nodup ∧ docs ∈ [docs] ∧ nameless ∈ reported ∧ unjudged ∈ reported) ∧
      problems (Selector.standard.resolve [docs] context) = [nameless, unjudged] ∧
      nameless.location ≠ docs.location ∧ unjudged.location = docs.location := by
  intro docs context nameless unjudged reported
  have distinct : ([docs].map (·.id)).Nodup := by decide
  have hmem : docs ∈ [docs] := List.mem_singleton.2 rfl
  have hnameless : nameless ∈ reported := by decide +kernel
  have hunjudged : unjudged ∈ reported := by decide +kernel
  obtain ⟨hproblems, hlocation⟩ := location_of_reported_iff distinct context
  refine ⟨⟨distinct, hmem, hnameless, hunjudged⟩, hproblems.trans (by decide +kernel), ?_, ?_⟩
  · exact (hlocation docs hmem nameless hnameless).not.2 (by decide)
  · exact (hlocation docs hmem unjudged hunjudged).2 (.inl rfl)

/-- A profile with a location, and a problem on it that points nowhere. -/
theorem reported_nowhere :
    let docs : Profile :=
      { id := "docs"
        activation := some { property := some {} }
        location := some { source := some "profiles.json", index := some 0 } }
    ([docs].map (·.id)).Nodup ∧
      ∃ problem ∈ problemsOn Activator.standard (expandedModel [docs] {}) {} docs,
        problem ∈ problems (Selector.standard.resolve [docs] {}) ∧ problem.location ≠ docs.location := by
  intro docs
  refine ⟨by decide, Fault.nameless.report "docs" none, ?_, ?_, ?_⟩
  · decide +kernel
  · decide +kernel
  · decide

end Resolution

end BuildProfiles
