/-
What a resolution returns, and which problems it reports.

With distinct ids and a model, the active profiles are those that the verdicts
arrange (`result_resolve`), and the problems are those of the single verdicts,
one after the other (`problems_resolve`). Which profiles these are is also said
in the terms of the context, the conditions and the default flags alone.
-/
import BuildProfiles.Proofs.Isolation
import BuildProfiles.Proofs.Judgement

namespace BuildProfiles.Resolution

open Consultation

/-- The problems reported in the course of a computation, in order. -/
def problems {α : Type} (run : Traced α) : List Problem := run.events.filterMap Event.problem?

/-- The activator calls made in the course of a computation, in order. -/
def calls {α : Type} (run : Traced α) : List Call := run.events.filterMap Event.call?

section

variable {selector : Selector} {profiles : List Profile} {context : Context}

theorem resolve_of_repeated (h : ¬ (profiles.map (·.id)).Nodup) :
    selector.resolve profiles context = ⟨[.logged ambiguity], .ok []⟩ := by
  rw [resolve_eq, if_neg h]

theorem resolve_of_failed {failure : Failure} (distinct : (profiles.map (·.id)).Nodup)
    (h : (selector.interpolator.interpolate (request profiles context)).result = .error failure) :
    selector.resolve profiles context =
      ⟨(prepare (request profiles context)
        (selector.interpolator.interpolate (request profiles context))).events, .error failure⟩ := by
  rw [resolve_eq, if_pos distinct]
  exact Traced.bind_of_error h _

theorem resolve_of_left {model : Model} (distinct : (profiles.map (·.id)).Nodup)
    (h : Leaves (selector.interpolator.interpolate (request profiles context)) model) :
    selector.resolve profiles context =
      let judged := judgeAll selector.activators model context {} profiles.zipIdx
      ⟨(prepare (request profiles context)
        (selector.interpolator.interpolate (request profiles context))).events ++
        (judged.2 ++ (summary judged.1).map .logged), .ok judged.1.settled⟩ := by
  rw [resolve_eq, if_pos distinct]
  exact Traced.bind_of_ok (leaves_iff.1 h) _

theorem result_resolve {model : Model} (distinct : (profiles.map (·.id)).Nodup)
    (h : Leaves (selector.interpolator.interpolate (request profiles context)) model) :
    (selector.resolve profiles context).result =
      .ok (arranged (verdictOn selector.activators model context) profiles.zipIdx) := by
  rw [resolve_of_left distinct h, ← (covers_judgeAll ..).settled]

/-- **A resolution returns the selected profiles and the free defaults in the
order given, and behind them the defaults of the project itself, unless a
profile of the project was selected.** Each profile comes with its position in
the list that was given. -/
theorem resolve_selected_then_defaults {model : Model} (distinct : (profiles.map (·.id)).Nodup)
    (left : Leaves (selector.interpolator.interpolate (request profiles context)) model) :
    (selector.resolve profiles context).result = .ok (
      (profiles.zipIdx.filter fun placed =>
        Selected selector.activators model context placed.1 ∨
          placed.1.id ∉ context.inactiveIds ∧ placed.1.isPom = false ∧ placed.1.isDefault = true) ++
      if ∃ p ∈ profiles, p.isPom = true ∧ Selected selector.activators model context p then []
      else profiles.zipIdx.filter fun placed =>
        placed.1.id ∉ context.inactiveIds ∧ placed.1.isPom = true ∧ placed.1.isDefault = true ∧
          ¬ Selected selector.activators model context placed.1) := by
  rw [result_resolve distinct left, arranged]
  congr 2
  · exact List.filter_congr fun placed _ => by rw [Bool.eq_iff_iff, comesEarly_iff, decide_eq_true_iff]
  · simp only [any_keepsOut_iff, verdictOn_selected_iff]
    refine ite_congr rfl (fun _ => rfl) fun _ => ?_
    exact List.filter_congr fun placed _ => by rw [Bool.eq_iff_iff, waits_iff, decide_eq_true_iff]

/-- The second profile is selected by its expanded condition, so the first stays
out, while the third owes nothing to the project. -/
theorem resolve_held_back :
    let profiles : List Profile := [
      { id := "docs", activation := some { activeByDefault := true } },
      { id := "ci", activation := some { property := some { name := some "env", value := some "${stage}" } } },
      { id := "mirror", source := "settings.xml", activation := some { activeByDefault := true } }]
    let context : Context := { userProperties := .ofList [("env", "ci"), ("stage", "ci")] }
    let outcome := Selector.standard.interpolator.interpolate (request profiles context)
    (profiles.map (·.id)).Nodup ∧ Leaves outcome outcome.model ∧
      (Selector.standard.resolve profiles context).result = .ok (profiles.zipIdx.drop 1) := by
  intro profiles context outcome
  have distinct : (profiles.map (·.id)).Nodup := by decide
  have left : Leaves outcome outcome.model := .handed rfl
  refine ⟨distinct, left, ?_⟩
  rw [resolve_selected_then_defaults distinct left]
  exact congrArg Except.ok (by decide +kernel)

/-! ## Problems and calls -/

theorem filterMap_logged {β : Type} {f : Event → Option β} (hl : ∀ r, f (.logged r) = none)
    (records : List Log.Record) : (records.map Event.logged).filterMap f = [] := by
  rw [List.filterMap_map]
  exact List.filterMap_eq_nil_iff.2 fun r _ => hl r

theorem filterMap_prepare {β : Type} {f : Event → Option β} (hl : ∀ r, f (.logged r) = none)
    (hr : ∀ r, f (.requested r) = none) (request : Request) (outcome : Interpolation) :
    (prepare request outcome).events.filterMap f = [] := by
  rw [prepare, List.filterMap_cons_none (hr _), filterMap_logged hl]

/-- A view in which the log and the request do not show is that of the single
verdicts, one after the other. -/
theorem filterMap_resolve {β : Type} {f : Event → Option β} (hl : ∀ r, f (.logged r) = none)
    (hr : ∀ r, f (.requested r) = none) {model : Model} (distinct : (profiles.map (·.id)).Nodup)
    (h : Leaves (selector.interpolator.interpolate (request profiles context)) model) :
    (selector.resolve profiles context).events.filterMap f =
      profiles.flatMap fun p => (judge selector.activators model context p).2.filterMap f := by
  rw [resolve_of_left distinct h]
  simp only [List.filterMap_append, filterMap_prepare hl hr, filterMap_logged hl, judgeAll_events,
    List.filterMap_flatMap, List.nil_append, List.append_nil]
  conv => rhs; rw [← List.zipIdx_map_fst 0 profiles, List.flatMap_map]

/-- The problems that come with the verdict on a profile. -/
def problemsOn (activators : List Activator) (model : Model) (context : Context) (p : Profile) :
    List Problem :=
  (judge activators model context p).2.filterMap Event.problem?

/-- The calls that are made for the verdict on a profile. -/
def callsOn (activators : List Activator) (model : Model) (context : Context) (p : Profile) : List Call :=
  (judge activators model context p).2.filterMap Event.call?

theorem problems_resolve {model : Model} (distinct : (profiles.map (·.id)).Nodup)
    (h : Leaves (selector.interpolator.interpolate (request profiles context)) model) :
    problems (selector.resolve profiles context) =
      profiles.flatMap (problemsOn selector.activators model context) :=
  filterMap_resolve (fun _ => rfl) (fun _ => rfl) distinct h

theorem calls_resolve {model : Model} (distinct : (profiles.map (·.id)).Nodup)
    (h : Leaves (selector.interpolator.interpolate (request profiles context)) model) :
    calls (selector.resolve profiles context) =
      profiles.flatMap (callsOn selector.activators model context) :=
  filterMap_resolve (fun _ => rfl) (fun _ => rfl) distinct h

end

end BuildProfiles.Resolution
