/-
The verdict on each profile, and what a resolution makes of the verdicts.

`Selected` says when a profile is selected without reference to the run; a
verdict is `selected` exactly then (`verdictOn_selected_iff`). The run goes through
the profiles once with two lists and a flag. `Tally.Covers` says what these hold
at every moment: what the profiles seen so far contribute to each. One step
keeps it (`Covers.add`), so the whole run does (`judgeAll_covers`).
-/
import BuildProfiles.Proofs.Consultation

namespace BuildProfiles.Resolution

open Consultation

/-! ## What conditions are read from -/

/-- The model that an interpolator which has returned leaves: its own if it
hands one back, else the one it was handed, in the state it left it in. -/
inductive Leaves (outcome : Interpolation) : Model → Prop
  | replaced {model : Model} : outcome.answer = .replaced model → Leaves outcome model
  | handed : outcome.answer = .handed → Leaves outcome outcome.model
  | nothing : outcome.answer = .nothing → Leaves outcome outcome.model

theorem leaves_iff {outcome : Interpolation} {model : Model} :
    Leaves outcome model ↔ outcome.result = .ok model := by
  constructor
  · intro h
    cases h with
    | replaced h => simp [Interpolation.result, h]
    | handed h => simp [Interpolation.result, h]
    | nothing h => simp [Interpolation.result, h]
  · intro h
    unfold Interpolation.result at h
    split at h
    · rename_i ha; cases h; exact .handed ha
    · rename_i ha; cases h; exact .nothing ha
    · rename_i ha; cases h; exact .replaced ha
    · cases h

/-- What the conditions of `p` are read from: the last profile of its id in the
model, or `p` itself where the model has none. -/
inductive StandsFor (model : Model) (p : Profile) : Profile → Prop
  | last {before after : List Profile} {q : Profile} :
      model.profiles = before ++ q :: after → q.id = p.id → (∀ r ∈ after, r.id ≠ p.id) →
      StandsFor model p q
  | missing : (∀ r ∈ model.profiles, r.id ≠ p.id) → StandsFor model p p

theorem standsFor_iff {model : Model} {p q : Profile} :
    StandsFor model p q ↔ counterpart model p = q := by
  unfold counterpart
  constructor
  · intro h
    cases h with
    | @last before after q hm hid hafter =>
      have hf : model.profiles.reverse.find? (·.id == p.id) = some q := by
        rw [List.find?_eq_some_iff_append]
        refine ⟨by simpa using hid, after.reverse, before.reverse, by simp [hm], ?_⟩
        simpa using hafter
      rw [hf]; rfl
    | missing h =>
      have hf : model.profiles.reverse.find? (·.id == p.id) = none := by simpa using h
      rw [hf]; rfl
  · intro h
    cases hf : model.profiles.reverse.find? (·.id == p.id) with
    | none =>
      rw [hf] at h
      cases h
      exact .missing (by simpa using hf)
    | some r =>
      rw [hf] at h
      cases h
      obtain ⟨hid, after, before, hm, hafter⟩ := List.find?_eq_some_iff_append.1 hf
      have hm' : model.profiles = before.reverse ++ r :: after.reverse := by
        have := congrArg List.reverse hm
        simpa using this
      exact .last hm' (by simpa using hid) (by simpa using hafter)

theorem counterpart_id (model : Model) (p : Profile) : (counterpart model p).id = p.id := by
  generalize h : counterpart model p = q
  cases standsFor_iff.2 h with
  | last _ hid _ => exact hid
  | missing _ => rfl

/-! ## Verdicts -/

/-- The context does not deselect the profile, and it selects the profile or
the conditions of the profile hold. -/
structure Selected (activators : List Activator) (model : Model) (context : Context) (p : Profile) :
    Prop where
  kept : p.id ∉ context.inactiveIds
  chosen : p.id ∈ context.activeIds ∨ ∃ q, StandsFor model p q ∧ ConditionMet activators q context

variable {activators : List Activator} {model : Model} {context : Context}

theorem judge_of_inactive {p : Profile} (h : p.id ∈ context.inactiveIds) :
    judge activators model context p =
      (.deactivated, [.logged (remark ("Profile " ++ p.id ++ " explicitly deactivated"))]) := by
  simp [judge, h]

theorem judge_of_active {p : Profile} (hd : p.id ∉ context.inactiveIds) (ha : p.id ∈ context.activeIds) :
    judge activators model context p = (.selected, []) := by
  simp [judge, hd, ha]

theorem judge_of_undecided {p : Profile} (hd : p.id ∉ context.inactiveIds)
    (ha : p.id ∉ context.activeIds) :
    judge activators model context p =
      (Verdict.ofCondition (conditionHolds activators (counterpart model p) p.location context).1 p,
        (conditionHolds activators (counterpart model p) p.location context).2) := by
  simp [judge, hd, ha]

/-- The verdict on a profile in a run. -/
def verdictOn (activators : List Activator) (model : Model) (context : Context) (p : Profile) : Verdict :=
  (judge activators model context p).1

theorem ofCondition_selected {holds : Bool} {p : Profile} :
    Verdict.ofCondition holds p = .selected ↔ holds = true := by
  cases holds <;> cases h : p.isDefault <;> simp [Verdict.ofCondition, h]

theorem ofCondition_byDefault {holds : Bool} {p : Profile} :
    Verdict.ofCondition holds p = .byDefault ↔ holds = false ∧ p.isDefault = true := by
  cases holds <;> cases h : p.isDefault <;> simp [Verdict.ofCondition, h]

/-- A verdict is `selected` exactly on the selected profiles. -/
theorem verdictOn_selected_iff {p : Profile} :
    verdictOn activators model context p = .selected ↔ Selected activators model context p := by
  unfold verdictOn
  by_cases hd : p.id ∈ context.inactiveIds
  · rw [judge_of_inactive hd]
    exact ⟨nofun, fun h => absurd hd h.kept⟩
  by_cases ha : p.id ∈ context.activeIds
  · rw [judge_of_active hd ha]
    exact ⟨fun _ => ⟨hd, .inl ha⟩, fun _ => rfl⟩
  rw [judge_of_undecided hd ha, ofCondition_selected, conditionHolds_iff]
  constructor
  · exact fun h => ⟨hd, .inr ⟨_, standsFor_iff.2 rfl, h⟩⟩
  · intro ⟨_, hs⟩
    rcases hs with h | ⟨q, hq, h⟩
    · exact absurd h ha
    · rwa [standsFor_iff.1 hq]

/-- A default counts where the profile is neither deselected nor selected. -/
theorem verdictOn_byDefault_iff {p : Profile} :
    verdictOn activators model context p = .byDefault ↔
      p.id ∉ context.inactiveIds ∧ ¬ Selected activators model context p ∧ p.isDefault = true := by
  rw [← verdictOn_selected_iff]
  unfold verdictOn
  by_cases hd : p.id ∈ context.inactiveIds
  · simp [judge_of_inactive hd, hd]
  by_cases ha : p.id ∈ context.activeIds
  · simp [judge_of_active hd ha]
  rw [judge_of_undecided hd ha, ofCondition_byDefault, ofCondition_selected]
  simp [hd]

instance (activators : List Activator) (model : Model) (context : Context) (p : Profile) :
    Decidable (Selected activators model context p) :=
  decidable_of_iff (verdictOn activators model context p = .selected) verdictOn_selected_iff

/-! ## One pass over the profiles -/

section Verdicts

variable (verdict : Profile → Verdict)

/-- The profile comes out at its place in the order given. -/
def comesEarly (placed : Placed) : Bool :=
  verdict placed.1 == .selected || (verdict placed.1 == .byDefault && !placed.1.isPom)

/-- The profile is a default that waits for the end. -/
def waits (placed : Placed) : Bool := verdict placed.1 == .byDefault && placed.1.isPom

/-- The profile keeps the waiting ones out. -/
def keepsOut (placed : Placed) : Bool := verdict placed.1 == .selected && placed.1.isPom

/-- What verdicts on all profiles make of them. -/
def arranged (profiles : List Placed) : List Placed :=
  profiles.filter (comesEarly verdict) ++
    if profiles.any (keepsOut verdict) then [] else profiles.filter (waits verdict)

/-- The tally holds what the profiles seen so far contribute to it. -/
structure Tally.Covers (tally : Tally) (seen : List Placed) : Prop where
  active : tally.active = seen.filter (comesEarly verdict)
  waiting : tally.waiting = seen.filter (waits verdict)
  pomSelected : tally.pomSelected = seen.any (keepsOut verdict)

variable {verdict}

theorem any_keepsOut_iff {profiles : List Profile} :
    profiles.zipIdx.any (keepsOut verdict) = true ↔
      ∃ p ∈ profiles, p.isPom = true ∧ verdict p = .selected := by
  simp only [List.any_eq_true, keepsOut, Bool.and_eq_true, beq_iff_eq]
  constructor
  · intro ⟨placed, hmem, hv, hp⟩
    exact ⟨placed.1, List.fst_mem_of_mem_zipIdx hmem, hp, hv⟩
  · intro ⟨p, hmem, hp, hv⟩
    obtain ⟨i, hi⟩ := exists_mem_zipIdx hmem
    exact ⟨(p, i), hi, hv, hp⟩

/-- A profile comes out if it is selected, or by its default, which for a
profile of the project itself takes that no profile of the project is selected. -/
theorem mem_arranged_iff {profiles : List Profile} {placed : Placed} :
    placed ∈ arranged verdict profiles.zipIdx ↔
      placed ∈ profiles.zipIdx ∧ (verdict placed.1 = .selected ∨
        verdict placed.1 = .byDefault ∧ (placed.1.isPom = true →
          ∀ q ∈ profiles, q.isPom = true → verdict q ≠ .selected)) := by
  have hnone : (¬ profiles.zipIdx.any (keepsOut verdict) = true) ↔
      ∀ q ∈ profiles, q.isPom = true → verdict q ≠ .selected := by
    rw [any_keepsOut_iff]
    simp only [not_exists, not_and, ne_eq]
  rw [← hnone]
  cases hany : profiles.zipIdx.any (keepsOut verdict) <;> cases hv : verdict placed.1 <;>
    cases hp : placed.1.isPom <;> simp [arranged, comesEarly, waits, hany, hv, hp]

theorem Tally.covers_nil : Tally.Covers verdict {} [] := ⟨rfl, rfl, rfl⟩

theorem Tally.Covers.add {tally : Tally} {seen : List Placed} (h : tally.Covers verdict seen)
    (placed : Placed) : (tally.add placed (verdict placed.1)).Covers verdict (seen ++ [placed]) := by
  obtain ⟨ha, hw, hp⟩ := h
  cases hv : verdict placed.1 with
  | selected | deactivated | inactive =>
    constructor <;> simp [Tally.add, comesEarly, waits, keepsOut, hv, ha, hw, hp]
  | byDefault =>
    -- The one verdict for which it matters who declares the profile.
    cases hpom : placed.1.isPom <;> constructor <;>
      simp [Tally.add, comesEarly, waits, keepsOut, hv, ha, hw, hp, hpom]

theorem Tally.Covers.settled {tally : Tally} {seen : List Placed} (h : tally.Covers verdict seen) :
    tally.settled = arranged verdict seen := by
  rw [Tally.settled, h.active, h.waiting, h.pomSelected, arranged]
  split <;> simp

end Verdicts

/-- **The run keeps the invariant**: at its end the tally holds what all the
profiles contribute. -/
theorem judgeAll_covers {tally : Tally} {seen : List Placed}
    (h : tally.Covers (verdictOn activators model context) seen) (rest : List Placed) :
    (judgeAll activators model context tally rest).1.Covers (verdictOn activators model context)
      (seen ++ rest) := by
  induction rest generalizing tally seen with
  | nil => simpa [judgeAll] using h
  | cons placed rest ih =>
    rw [judgeAll, List.append_cons]
    exact ih (h.add placed)

theorem covers_judgeAll (activators : List Activator) (model : Model) (context : Context)
    (profiles : List Placed) :
    (judgeAll activators model context {} profiles).1.Covers (verdictOn activators model context) profiles :=
  judgeAll_covers Tally.covers_nil profiles

/-- What happens on one profile does not depend on what was gathered before. -/
theorem judgeAll_events (tally : Tally) (rest : List Placed) :
    (judgeAll activators model context tally rest).2 =
      rest.flatMap fun placed => (judge activators model context placed.1).2 := by
  induction rest generalizing tally with
  | nil => rfl
  | cons placed rest ih => rw [judgeAll, List.flatMap_cons, ih]

/-! ## The verdicts, declared -/

variable {placed : Placed}

theorem comesEarly_iff :
    comesEarly (verdictOn activators model context) placed = true ↔
      Selected activators model context placed.1 ∨
        placed.1.id ∉ context.inactiveIds ∧ placed.1.isPom = false ∧ placed.1.isDefault = true := by
  simp only [comesEarly, Bool.or_eq_true, Bool.and_eq_true, beq_iff_eq, Bool.not_eq_true',
    verdictOn_selected_iff, verdictOn_byDefault_iff]
  constructor
  · intro h
    rcases h with h | ⟨⟨hk, -, hd⟩, hp⟩
    · exact .inl h
    · exact .inr ⟨hk, hp, hd⟩
  · intro h
    rcases h with h | ⟨hk, hp, hd⟩
    · exact .inl h
    · by_cases hs : Selected activators model context placed.1
      · exact .inl hs
      · exact .inr ⟨⟨hk, hs, hd⟩, hp⟩

theorem waits_iff :
    waits (verdictOn activators model context) placed = true ↔
      placed.1.id ∉ context.inactiveIds ∧ placed.1.isPom = true ∧ placed.1.isDefault = true ∧
        ¬ Selected activators model context placed.1 := by
  simp only [waits, Bool.and_eq_true, beq_iff_eq, verdictOn_byDefault_iff]
  constructor
  · intro ⟨⟨hk, hs, hd⟩, hp⟩
    exact ⟨hk, hp, hd, hs⟩
  · intro ⟨hk, hp, hd, hs⟩
    exact ⟨⟨hk, hs, hd⟩, hp⟩

end BuildProfiles.Resolution
