/-
A resolution of many profiles is made of resolutions of single ones.

What the standard selector makes of a profile among others is what it makes of
the profile alone, but for the defaults of the project itself, which give way
to any selected profile of the project. Whether a profile is selected also shows
when it is alone, once its default flag is taken away.
-/
import BuildProfiles.Proofs.Standard

namespace BuildProfiles.Resolution

variable {profiles : List Profile} {context : Context} {p : Profile}

/-- The profile without its default flag. -/
def withoutDefault (p : Profile) : Profile :=
  { p with activation := p.activation.map fun activation => { activation with activeByDefault := false } }

theorem location_withoutDefault (p : Profile) : (withoutDefault p).location = p.location := rfl

theorem isDefault_withoutDefault (p : Profile) : (withoutDefault p).isDefault = false := by
  cases h : p.activation <;> simp [withoutDefault, Profile.isDefault, h]

theorem property?_withoutDefault (p : Profile) :
    (expanded context (withoutDefault p)).property? = (expanded context p).property? := by
  obtain ⟨id, source, activation, location⟩ := p
  cases activation <;> rfl

theorem jdk?_withoutDefault (p : Profile) :
    (expanded context (withoutDefault p)).jdk? = (expanded context p).jdk? := by
  obtain ⟨id, source, activation, location⟩ := p
  cases activation <;> rfl

/-- The default flag plays no part in whether a profile is selected. -/
theorem verdictAlone_withoutDefault :
    verdictAlone context (withoutDefault p) = .selected ↔ verdictAlone context p = .selected := by
  rw [verdictAlone, verdictAlone]
  by_cases hk : p.id ∈ context.inactiveIds
  · rw [judgeAlone, judgeAlone, judge_of_inactive (p := withoutDefault p) hk, judge_of_inactive hk]
  by_cases ha : p.id ∈ context.activeIds
  · rw [judgeAlone, judgeAlone, judge_of_active (p := withoutDefault p) hk ha, judge_of_active hk ha]
  rw [judgeAlone_of_undecided (p := withoutDefault p) hk ha,
    judgeAlone_of_undecided hk ha, ofCondition_selected, ofCondition_selected, location_withoutDefault]
  have hreply : ∀ a ∈ Activator.standard, ∀ question,
      a.reply question (expanded context (withoutDefault p)) context =
        a.reply question (expanded context p) context :=
    reply_standard_congr (.refl context) rfl rfl (property?_withoutDefault p) (jdk?_withoutDefault p)
  rw [conditionHolds_congr hreply rfl]

/-- The active profiles of the standard selector. -/
def activeIn (profiles : List Profile) (context : Context) : List Profile :=
  (activePlaces profiles context).map Prod.fst

theorem mem_activeIn (distinct : (profiles.map (·.id)).Nodup) :
    p ∈ activeIn profiles context ↔
      p ∈ profiles ∧ (verdictAlone context p = .selected ∨ verdictAlone context p = .byDefault ∧
        (p.isPom = true → ∀ q ∈ profiles, q.isPom = true → verdictAlone context q ≠ .selected)) := by
  simp only [activeIn, List.mem_map, mem_activePlaces distinct]
  constructor
  · intro ⟨placed, ⟨hmem, h⟩, hp⟩
    subst hp
    exact ⟨List.fst_mem_of_mem_zipIdx hmem, h⟩
  · intro ⟨hp, h⟩
    obtain ⟨i, hi⟩ := exists_mem_zipIdx hp
    exact ⟨(p, i), ⟨hi, h⟩, rfl⟩

/-- Alone, a profile is active if it is selected or by its default. -/
theorem mem_activeIn_alone :
    p ∈ activeIn [p] context ↔
      verdictAlone context p = .selected ∨ verdictAlone context p = .byDefault := by
  rw [mem_activeIn (by simp)]
  simp only [List.mem_singleton, true_and, forall_eq]
  constructor
  · intro h
    rcases h with h | ⟨h, -⟩
    · exact .inl h
    · exact .inr h
  · intro h
    rcases h with h | h
    · exact .inl h
    · exact .inr ⟨h, fun _ _ => by simp [h]⟩

/-- The profile is active when it is alone and its default flag is taken away. -/
def SelectedAlone (context : Context) (p : Profile) : Prop :=
  withoutDefault p ∈ activeIn [withoutDefault p] context

instance (context : Context) (p : Profile) : Decidable (SelectedAlone context p) :=
  inferInstanceAs (Decidable (_ ∈ _))

theorem selectedAlone_iff : SelectedAlone context p ↔ verdictAlone context p = .selected := by
  have hdefault : verdictAlone context (withoutDefault p) ≠ .byDefault := fun h => by
    have := (verdictOn_byDefault_iff.1 h).2.2
    rw [isDefault_withoutDefault] at this
    cases this
  rw [SelectedAlone, mem_activeIn_alone, verdictAlone_withoutDefault]
  exact or_iff_left hdefault

/-- **Resolution is compositional.** Whether a profile is active, and which
problems are reported on it, can be read off resolutions of single profiles. -/
theorem resolve_compositional (distinct : (profiles.map (·.id)).Nodup) (context : Context) :
    (∀ others, (Selector.standard.resolve others context).result = .ok (activePlaces others context)) ∧
    (∀ p ∈ profiles, p.isPom = false →
      (p ∈ activeIn profiles context ↔ p ∈ activeIn [p] context)) ∧
    (∀ p ∈ profiles, p.isPom = true →
      (p ∈ activeIn profiles context ↔ SelectedAlone context p ∨
        p ∈ activeIn [p] context ∧ ∀ q ∈ profiles, q.isPom = true → ¬ SelectedAlone context q)) ∧
    problems (Selector.standard.resolve profiles context) =
      profiles.flatMap (fun p => problems (Selector.standard.resolve [p] context)) ∧
    ∀ others, profiles.Perm others → ∀ p, p ∈ activeIn profiles context ↔ p ∈ activeIn others context := by
  refine ⟨fun others => result_eq_activePlaces others context, fun p hp hpom => ?_,
    fun p hp hpom => ?_, ?_, fun others hperm p => ?_⟩
  · rw [mem_activeIn distinct, mem_activeIn_alone]
    simp [hp, hpom]
  · simp only [mem_activeIn distinct, mem_activeIn_alone, selectedAlone_iff, hp, hpom, true_and,
      forall_const]
    constructor
    · intro h
      rcases h with h | ⟨h, hnone⟩
      · exact .inl h
      · exact .inr ⟨.inr h, hnone⟩
    · intro h
      rcases h with h | ⟨h | h, hnone⟩
      · exact .inl h
      · exact .inl h
      · exact .inr ⟨h, hnone⟩
  · rw [problems_standard distinct]
    exact List.flatMap_congr fun p _ => (problems_alone context p).symm
  · have hothers : (others.map (·.id)).Nodup := (hperm.map _).nodup_iff.1 distinct
    simp only [mem_activeIn distinct, mem_activeIn hothers, hperm.mem_iff]

/-- A default of the project is active alone and gives way to a selected
profile beside it. -/
theorem default_gives_way :
    let docs : Profile := { id := "docs", activation := some { activeByDefault := true } }
    let ci : Profile := { id := "ci", activation := some { property := some { name := some "env" } } }
    let context : Context := { userProperties := .ofList [("env", "ci")] }
    (([docs, ci].map (·.id)).Nodup ∧ docs ∈ [docs, ci] ∧ docs.isPom = true ∧ [docs, ci].Perm [ci, docs]) ∧
      docs ∈ activeIn [docs] context ∧ docs ∉ activeIn [docs, ci] context ∧
      docs ∉ activeIn [ci, docs] context := by
  intro docs ci context
  have distinct : ([docs, ci].map (·.id)).Nodup := by decide
  have hperm : [docs, ci].Perm [ci, docs] := .swap ci docs []
  have hmem : docs ∈ [docs, ci] := by simp
  obtain ⟨-, -, hpom, -, hany⟩ := resolve_compositional distinct context
  have hout : docs ∉ activeIn [docs, ci] context := by
    rw [hpom docs hmem rfl]
    decide +kernel
  exact ⟨⟨distinct, hmem, rfl, hperm⟩, by decide +kernel, hout, (hany _ hperm docs).not.1 hout⟩

end BuildProfiles.Resolution
