/-
Failures stay where they arise.

A failing interpolator ends a resolution before anything is judged
(`result_error_iff`). A failing activator ends the check of one profile: it is
reported behind what the activators had reported on that profile, it counts as
a no, and the profiles behind are judged as if nothing had happened.
-/
import BuildProfiles.Proofs.ActiveProfiles

namespace BuildProfiles.Resolution

open Consultation

variable {selector : Selector} {profiles : List Profile} {context : Context}

theorem interpolation_error_iff {outcome : Interpolation} {failure : Failure} :
    outcome.result = .error failure ↔ outcome.answer = .failed failure := by
  unfold Interpolation.result
  split <;> simp_all

/-- A resolution fails exactly where it asks an interpolator that fails. -/
theorem result_error_iff {failure : Failure} :
    (selector.resolve profiles context).result = .error failure ↔
      (profiles.map (·.id)).Nodup ∧
        (selector.interpolator.interpolate (request profiles context)).answer = .failed failure := by
  rw [← interpolation_error_iff]
  by_cases distinct : (profiles.map (·.id)).Nodup
  · cases h : (selector.interpolator.interpolate (request profiles context)).result with
    | error other => simp [resolve_of_failed distinct h, distinct]
    | ok model => simp [result_resolve distinct (leaves_iff.2 h)]
  · simp [resolve_of_repeated distinct, distinct]

/-- The standard selector asks an interpolator that never fails. -/
theorem exists_result_standard (profiles : List Profile) (context : Context) :
    ∃ active, (Selector.standard.resolve profiles context).result = .ok active := by
  cases h : (Selector.standard.resolve profiles context).result with
  | ok active => exact ⟨active, rfl⟩
  | error failure =>
    have := (result_error_iff.1 h).2
    cases this

/-- Where it fails, nothing has been judged. -/
theorem filterMap_of_error {β : Type} {f : Event → Option β} (hl : ∀ r, f (.logged r) = none)
    (hr : ∀ r, f (.requested r) = none) {failure : Failure}
    (h : (selector.resolve profiles context).result = .error failure) :
    (selector.resolve profiles context).events.filterMap f = [] := by
  obtain ⟨distinct, hf⟩ := result_error_iff.1 h
  rw [resolve_of_failed distinct (interpolation_error_iff.2 hf), filterMap_prepare hl hr]

/-! ## One failing profile -/

variable {activators : List Activator} {model : Model} {p q : Profile} {before : List Consultation}
  {c : Consultation} {failure : Failure}

/-- A check of the profile goes through `before` undisturbed and fails at `c`. -/
structure FailsAt (activators : List Activator) (profile : Profile) (context : Context)
    (before : List Consultation) (c : Consultation) (failure : Failure) : Prop where
  planned : ∃ after, consultations profile context activators = before ++ c :: after
  quiet : ∀ d ∈ before, ∃ answer, (d.reply profile context).answer = .ok answer
  failed : (c.reply profile context).answer = .error failure

theorem FailsAt.first (h : FailsAt activators q context before c failure) :
    firstFailure? q context (consultations q context activators) = some failure ∧
      untilFailure q context (consultations q context activators) = before ++ [c] := by
  obtain ⟨after, ha⟩ := h.planned
  rw [ha]
  refine untilFailure_split (fun d hd => failure?_eq_none_iff.2 (h.quiet d hd)) ?_
  rw [failure?, h.failed]

/-- What is done about a profile on which an activator fails: the calls end
there, and the failure is reported behind the problems of the activators. -/
theorem FailsAt.judged (hk : p.id ∉ context.inactiveIds) (ha : p.id ∉ context.activeIds)
    (hq : StandsFor model p q) (h : FailsAt activators q context before c failure) :
    callsOn activators model context p = (before ++ [c]).map (·.call q) ∧
      problemsOn activators model context p =
        (before ++ [c]).flatMap (fun d => (d.reply q context).problems) ++
          [checkProblem p.id p.location failure] := by
  have hid : q.id = p.id := by rw [← standsFor_iff.1 hq, counterpart_id]
  obtain ⟨note, hc⟩ := conditionHolds_of_failure p.location h.first.1
  rw [callsOn, problemsOn, judge_of_undecided hk ha, standsFor_iff.1 hq, hc, h.first.2, hid]
  simp only [List.filterMap_append, List.filterMap_flatMap, calls_events, problems_events]
  refine ⟨?_, rfl⟩
  rw [List.map_eq_flatMap]
  exact List.append_nil _

end BuildProfiles.Resolution
