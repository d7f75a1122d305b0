/-
Steps that fail.

`Fails session next` says from the outside when a step fails: the document
declares no profiles, the interpolator fails on what it is asked, or the draft
of a problem names no severity or no model version. Such a step leaves the
session as it found it (`session_of_fails`), so a run ends as the run of those
of its steps that succeed (`after_succeeding`). Every other step only adds to
the collector, behind what is there.
-/
import BuildProfiles.Proofs.Containment
import BuildProfiles.Proofs.Declarations
import BuildProfiles.Proofs.Sessions

namespace BuildProfiles

/-! ## Drafts and errors -/

theorem Severity.mem_all (severity : Severity) : severity ∈ Severity.all := by
  cases severity <;> decide

theorem ModelVersion.mem_all (version : ModelVersion) : version ∈ ModelVersion.all := by
  cases version <;> decide

/-- The draft says by name which severity and which model version are meant. -/
structure Problem.Draft.Named (draft : Problem.Draft) : Prop where
  severity : ∃ severity : Severity, severity.name = draft.severity
  version : ∃ version : ModelVersion, version.name = draft.version

theorem Severity.isSome_ofName?_iff {name : Text} :
    (Severity.ofName? name).isSome = true ↔ ∃ severity : Severity, severity.name = name := by
  simp [Severity.ofName?, List.find?_isSome, Severity.mem_all]

theorem ModelVersion.isSome_ofName?_iff {name : Text} :
    (ModelVersion.ofName? name).isSome = true ↔ ∃ version : ModelVersion, version.name = name := by
  simp [ModelVersion.ofName?, List.find?_isSome, ModelVersion.mem_all]

/-- A draft is refused exactly when one of its two names is unknown. -/
theorem Problem.ofDraft_error_iff {draft : Problem.Draft} :
    (∃ error, Problem.ofDraft draft = .error error) ↔ ¬ draft.Named := by
  have hnamed : draft.Named ↔ (Severity.ofName? draft.severity).isSome = true ∧
      (ModelVersion.ofName? draft.version).isSome = true := by
    rw [Severity.isSome_ofName?_iff, ModelVersion.isSome_ofName?_iff]
    exact ⟨fun h => ⟨h.severity, h.version⟩, fun h => ⟨h.1, h.2⟩⟩
  rw [hnamed, Problem.ofDraft]
  cases Severity.ofName? draft.severity with
  | none => simp
  | some severity =>
    cases ModelVersion.ofName? draft.version with
    | none => simp
    | some version => simp

theorem Problem.isError_iff {problem : Problem} :
    problem.isError = true ↔ problem.severity = .error ∨ problem.severity = .fatal := by
  obtain ⟨severity, version, message, location, failure⟩ := problem
  cases severity <;> simp [Problem.isError]

namespace Collector

theorem errors_eq (collector : Collector) :
    collector.errors = collector.problems.filter fun problem =>
      problem.severity = .error ∨ problem.severity = .fatal := by
  refine List.filter_congr fun problem _ => ?_
  rw [Bool.eq_iff_iff, Problem.isError_iff, decide_eq_true_iff]

theorem hasErrors_iff {collector : Collector} : collector.hasErrors = true ↔ collector.errors ≠ [] := by
  simp [hasErrors, errors]

/-- An error that has been found stays found. -/
theorem hasErrors_of_prefix {earlier later : Collector} (h : earlier.problems <+: later.problems)
    (he : earlier.hasErrors = true) : later.hasErrors = true := by
  obtain ⟨problem, hmem, herror⟩ := List.any_eq_true.1 he
  exact List.any_eq_true.2 ⟨problem, h.subset hmem, herror⟩

end Collector

theorem Definitions.exists_parse_of_isDocument {document : Json.Value} (h : IsDocument document)
    (loader : Loader) (sourceName : Text) :
    ∃ profiles, parse loader sourceName document = .ok profiles := by
  obtain ⟨entries, hentries, hall⟩ := h
  exact ⟨_, (parse_eq_ok_iff loader sourceName).2 ⟨entries, hentries, hall, rfl⟩⟩

namespace Session

/-! ## One step -/

/-- Why a step of a session fails. -/
inductive Fails (session : Session) : Step → Prop
  | document {loader document} : ¬ Definitions.IsDocument document →
      Fails session (.parse loader document)
  | interpolation {context failure} : (session.profiles.map (·.id)).Nodup →
      (session.selector.interpolator.interpolate
        (Resolution.request session.profiles context)).answer = .failed failure →
      Fails session (.resolve context)
  | draft {draft} : ¬ draft.Named → Fails session (.addProblem draft)

def Answer.isFailure : Answer → Bool
  | .definitionsRefused _ | .resolutionFailed _ | .problemRefused _ => true
  | _ => false

variable {session : Session} {next : Step}

theorem fails_parse_iff {loader : Loader} {document : Json.Value} :
    session.Fails (.parse loader document) ↔ ¬ Definitions.IsDocument document := by
  refine ⟨fun h => ?_, .document⟩
  cases h with
  | document hdocument => exact hdocument

theorem fails_resolve_iff {context : Context} :
    session.Fails (.resolve context) ↔
      ∃ failure, (session.selector.resolve session.profiles context).result = .error failure := by
  simp only [Resolution.result_error_iff]
  refine ⟨fun h => ?_, fun h => ?_⟩
  · cases h with
    | interpolation distinct hanswer => exact ⟨_, distinct, hanswer⟩
  · obtain ⟨failure, distinct, hanswer⟩ := h
    exact .interpolation distinct hanswer

theorem fails_addProblem_iff {draft : Problem.Draft} :
    session.Fails (.addProblem draft) ↔ ∃ error, Problem.ofDraft draft = .error error := by
  rw [Problem.ofDraft_error_iff]
  refine ⟨fun h => ?_, .draft⟩
  cases h with
  | draft hnamed => exact hnamed

/-- A step answers with a failure exactly where it has a reason to fail. -/
theorem isFailure_step_iff : (session.step next).answer.isFailure = true ↔ session.Fails next := by
  cases next with
  | addActivator activator =>
    refine iff_of_false ?_ fun h => by cases h
    simp [step, Answer.isFailure]
  | setInterpolator interpolator =>
    refine iff_of_false ?_ fun h => by cases h
    simp [step, Answer.isFailure]
  | setProfiles objects =>
    refine iff_of_false ?_ fun h => by cases h
    simp [step, Answer.isFailure]
  | parse loader document =>
    rw [fails_parse_iff, step]
    by_cases h : Definitions.IsDocument document
    · obtain ⟨profiles, hok⟩ := Definitions.exists_parse_of_isDocument h loader inlineName
      simp [hok, Answer.isFailure, h]
    · obtain ⟨first, others, -, herror⟩ :=
        Definitions.parse_of_not_isDocument loader inlineName h
      simp [herror, Answer.isFailure, h]
  | resolve context =>
    rw [fails_resolve_iff, resolve_step]
    cases h : (session.selector.resolve session.profiles context).result with
    | ok placed => simp [Answer.isFailure, h]
    | error failure => simp [Answer.isFailure, h]
  | addProblem draft =>
    rw [fails_addProblem_iff, step]
    cases Problem.ofDraft draft with
    | ok problem => simp [Answer.isFailure]
    | error error => simp [Answer.isFailure]

/-- **A step that fails leaves the session as it found it**: the profiles with
their activations, the activators, the interpolator and the problems. -/
theorem session_of_fails (h : session.Fails next) : (session.step next).session = session := by
  cases h with
  | @document loader document hdocument =>
    obtain ⟨first, others, -, herror⟩ :=
      Definitions.parse_of_not_isDocument loader inlineName hdocument
    rw [step, herror]
  | @interpolation context failure distinct hanswer =>
    -- The interpolator is asked before any profile is judged, so nothing has been reported.
    have hnone : (session.selector.resolve session.profiles context).events.filterMap Event.problem? = [] :=
      Resolution.filterMap_of_error (fun _ => rfl) (fun _ => rfl)
        (Resolution.result_error_iff.2 ⟨distinct, hanswer⟩)
    simp only [resolve_step, hnone, Collector.addAll, List.append_nil]
  | @draft draft hnamed =>
    obtain ⟨error, herror⟩ := Problem.ofDraft_error_iff.2 hnamed
    rw [step, herror]

theorem problems_of_fails (h : session.Fails next) : (session.step next).problems = [] := by
  have hstep := collector_step session next
  rw [session_of_fails h] at hstep
  exact List.self_eq_append_right.1 hstep

/-! ## Many steps -/

theorem after_cons (session : Session) (next : Step) (steps : List Step) :
    session.after (next :: steps) = (session.step next).session.after steps := rfl

theorem after_append (session : Session) (before rest : List Step) :
    session.after (before ++ rest) = (session.after before).after rest :=
  List.foldl_append

/-- The steps of a run that succeed. -/
def succeeding (session : Session) : List Step → List Step
  | [] => []
  | next :: steps =>
    let outcome := session.step next
    if outcome.answer.isFailure then outcome.session.succeeding steps
    else next :: outcome.session.succeeding steps

/-- **A run ends as the run of its steps that succeed.** -/
theorem after_succeeding (session : Session) (steps : List Step) :
    session.after (session.succeeding steps) = session.after steps := by
  induction steps generalizing session with
  | nil => rfl
  | cons next steps ih =>
    rw [succeeding, after_cons session next steps]
    split
    · rename_i h
      have hkept := session_of_fails (isFailure_step_iff.1 h)
      rw [hkept]
      exact ih session
    · rw [after_cons]
      exact ih (session.step next).session

theorem problems_after (session : Session) (steps : List Step) :
    (session.after steps).collector.problems = session.collector.problems ++ session.reported steps := by
  rw [after_eq]

/-- **What fails changes nothing, and the collector only grows.** At every moment
of a run: the next step fails exactly where it has a reason to; if it does, the
session is the same behind it and what follows goes on as without it, and of
what follows only the steps that succeed matter. The problems that are reported
come in order behind those that are there, the errors are those of them that
are no warnings, and once there is one there always is. -/
theorem failed_step_changes_nothing (session : Session) (before : List Step) (next : Step) (rest : List Step) :
    let now := session.after before
    let outcome := now.step next
    (session.run (before ++ next :: rest))[before.length]? = some outcome ∧
    (outcome.answer.isFailure = true ↔ now.Fails next) ∧
    (now.Fails next → outcome.session = now ∧ outcome.problems = [] ∧
      session.run (before ++ next :: rest) = session.run before ++ outcome :: now.run rest) ∧
    session.after (before ++ now.succeeding rest) = session.after (before ++ rest) ∧
    (session.after (before ++ rest)).collector.problems = now.collector.problems ++ now.reported rest ∧
    (now.collector.errors = now.collector.problems.filter fun problem =>
      problem.severity = .error ∨ problem.severity = .fatal) ∧
    (now.collector.hasErrors = true ↔ now.collector.errors ≠ []) ∧
    (now.collector.hasErrors = true → (session.after (before ++ rest)).collector.hasErrors = true) := by
  intro now outcome
  have hgrown : (session.after (before ++ rest)).collector.problems =
      now.collector.problems ++ now.reported rest := by
    rw [after_append, problems_after]
  refine ⟨getElem?_run session before next rest, isFailure_step_iff, fun h => ?_, ?_, hgrown,
    now.collector.errors_eq, Collector.hasErrors_iff, ?_⟩
  · have hkept : outcome.session = now := session_of_fails h
    refine ⟨hkept, problems_of_fails h, ?_⟩
    rw [run_append, run]
    show _ ++ outcome :: outcome.session.run rest = _
    rw [hkept]
  · rw [after_append, after_succeeding, after_append]
  · exact Collector.hasErrors_of_prefix ⟨_, hgrown.symm⟩

/-- The interpolator throws the model away and fails, with a problem collected
and a profile given. Behind that step all is as before it. -/
theorem resolve_failed_changes_nothing :
    let docs : Profile := { id := "docs", activation := some { jdk := some "[11,)" } }
    let broken : Interpolator :=
      .ofOutcome fun _ => { model := ⟨[]⟩, answer := .failed (.raised .runtime none) }
    let before : List Step := [.setProfiles (.ofProfiles [docs]), .setInterpolator broken,
      .addProblem { severity := "FATAL", version := "V20", message := "disk full" }]
    let later : List Step :=
      [.resolve {}, .addProblem { severity := "fatal", version := "BASE", message := "" }]
    let now := Session.after { selector := .standard } before
    now.Fails (.resolve {}) ∧ (now.step (.resolve {})).session = now ∧
      now.profiles = [docs] ∧ now.collector.hasErrors = true ∧
      (now.after later).collector.hasErrors = true := by
  intro docs broken before later now
  have hfails : now.Fails (.resolve {}) := .interpolation (by decide) rfl
  obtain ⟨-, -, hkept, -, -, -, -, herrors⟩ :=
    failed_step_changes_nothing { selector := .standard } before (.resolve {}) later
  have hnow : now.collector.hasErrors = true := by decide +kernel
  rw [after_append] at herrors
  exact ⟨hfails, (hkept hfails).1, rfl, hnow, herrors hnow⟩

end Session

end BuildProfiles
