/-
What one more id among the deselected or the selected ones changes.

Deselecting a profile takes it out, and lets the defaults of the project in
that only this profile kept out. Selecting it brings it in, and a profile of the
project then keeps the defaults of the project out. Nothing else changes, and
the profile itself is no longer looked at, so its problems are gone.
-/
import BuildProfiles.Proofs.Standard
import Mathlib.Data.List.Nodup

namespace BuildProfiles.Resolution

/-- The context that deselects one more id. -/
def deselecting (context : Context) (id : Text) : Context :=
  { context with inactiveIds := id :: context.inactiveIds }

/-- The context that selects one more id. -/
def selecting (context : Context) (id : Text) : Context :=
  { context with activeIds := id :: context.activeIds }

variable {profiles : List Profile} {context : Context} {p q : Profile}

/-! ## Verdicts under one more override -/

theorem expanded_congr {c d : Context} (h : SameProperties c d) : expanded c = expanded d := by
  obtain ⟨hs, hu, hd⟩ := h
  funext p
  simp only [expanded, Interpolator.values, request, hs, hu, hd]

/-- The overrides bear on a profile only through its own id. -/
theorem judgeAlone_congr {c d : Context} (h : SameProperties c d)
    (hk : p.id ∈ c.inactiveIds ↔ p.id ∈ d.inactiveIds) (ha : p.id ∈ c.activeIds ↔ p.id ∈ d.activeIds) :
    judgeAlone c p = judgeAlone d p := by
  by_cases hkc : p.id ∈ c.inactiveIds
  · rw [judgeAlone, judgeAlone, judge_of_inactive hkc, judge_of_inactive (hk.1 hkc)]
  by_cases hac : p.id ∈ c.activeIds
  · rw [judgeAlone, judgeAlone, judge_of_active hkc hac, judge_of_active (hkc ∘ hk.2) (ha.1 hac)]
  rw [judgeAlone_of_undecided hkc hac, judgeAlone_of_undecided (hkc ∘ hk.2) (hac ∘ ha.2),
    ← expanded_congr h, conditionHolds_congr (reply_standard_congr h rfl rfl rfl rfl) rfl]

theorem judgeAlone_deselecting_other {id : Text} (h : q.id ≠ id) :
    judgeAlone (deselecting context id) q = judgeAlone context q :=
  judgeAlone_congr ⟨rfl, rfl, rfl⟩ (by simp [deselecting, h]) Iff.rfl

theorem judgeAlone_selecting_other {id : Text} (h : q.id ≠ id) :
    judgeAlone (selecting context id) q = judgeAlone context q :=
  judgeAlone_congr ⟨rfl, rfl, rfl⟩ Iff.rfl (by simp [selecting, h])

theorem verdictAlone_deselecting : verdictAlone (deselecting context p.id) p = .deactivated :=
  congrArg Prod.fst (judge_of_inactive (by simp [deselecting]))

theorem problemsAlone_deselecting : problemsAlone (deselecting context p.id) p = [] := by
  rw [problemsAlone, judgeAlone, judge_of_inactive (by simp [deselecting])]
  rfl

theorem judgeAlone_selecting (h : p.id ∉ context.inactiveIds) :
    judgeAlone (selecting context p.id) p = (.selected, []) :=
  judge_of_active h (by simp [selecting])

/-! ## What one verdict changes -/

theorem filter_eq_erase {placed : List Placed} {a : Placed} {f g : Placed → Bool} (hn : placed.Nodup)
    (hg : g a = false) (h : ∀ q ∈ placed, q ≠ a → g q = f q) :
    placed.filter g = (placed.filter f).erase a := by
  have hf : (placed.filter f).Nodup := List.Pairwise.filter f hn
  rw [hf.erase_eq_filter, List.filter_filter]
  refine List.filter_congr fun q hq => ?_
  by_cases hqa : q = a
  · simp [hqa, hg]
  · simp [hqa, h q hq hqa]

theorem erase_append_of_not_both {l r : List Placed} {a : Placed} (h : a ∈ l → a ∉ r) :
    (l ++ r).erase a = l.erase a ++ r.erase a := by
  by_cases ha : a ∈ l
  · rw [List.erase_append_left _ ha, List.erase_of_not_mem (h ha)]
  · rw [List.erase_append_right _ ha, List.erase_of_not_mem ha]

section

variable {v w : Profile → Verdict} {placed : List Placed} {a : Placed}

theorem not_comesEarly_and_waits : ¬ (comesEarly v a = true ∧ waits v a = true) := by
  cases hv : v a.1 <;> cases hp : a.1.isPom <;> simp [comesEarly, waits, hv, hp]

/-- A profile that is taken out, where the same defaults wait as before. -/
theorem arranged_of_out (hn : placed.Nodup) (ha : w a.1 = .deactivated)
    (h : ∀ q ∈ placed, q ≠ a → w q.1 = v q.1)
    (hout : placed.any (keepsOut w) = placed.any (keepsOut v)) :
    arranged w placed = (arranged v placed).erase a := by
  have hearly : placed.filter (comesEarly w) = (placed.filter (comesEarly v)).erase a :=
    filter_eq_erase hn (by simp [comesEarly, ha]) fun q hq hqa => by rw [comesEarly, comesEarly, h q hq hqa]
  have hwaits : placed.filter (waits w) = (placed.filter (waits v)).erase a :=
    filter_eq_erase hn (by simp [waits, ha]) fun q hq hqa => by rw [waits, waits, h q hq hqa]
  rw [arranged, arranged, hearly, hwaits, hout, erase_append_of_not_both]
  · split <;> rfl
  · intro he hw
    split at hw
    · cases hw
    · exact not_comesEarly_and_waits ⟨(List.mem_filter.1 he).2, (List.mem_filter.1 hw).2⟩

/-- A selected profile that is taken out and that alone kept the defaults out. -/
theorem arranged_of_last_out (hn : placed.Nodup) (ha : w a.1 = .deactivated) (hv : v a.1 = .selected)
    (h : ∀ q ∈ placed, q ≠ a → w q.1 = v q.1) (hbefore : placed.any (keepsOut v) = true)
    (hafter : placed.any (keepsOut w) = false) :
    arranged w placed = (arranged v placed).erase a ++ placed.filter (waits v) := by
  have hearly : placed.filter (comesEarly w) = (placed.filter (comesEarly v)).erase a :=
    filter_eq_erase hn (by simp [comesEarly, ha]) fun q hq hqa => by rw [comesEarly, comesEarly, h q hq hqa]
  have hwaits : placed.filter (waits w) = placed.filter (waits v) := by
    refine List.filter_congr fun q hq => ?_
    by_cases hqa : q = a
    · rw [hqa, waits, waits, ha, hv]; rfl
    · rw [waits, waits, h q hq hqa]
  rw [arranged, arranged, hearly, hwaits, hbefore, hafter, if_pos rfl, List.append_nil]
  rfl

end

/-! ## Runs with one more override -/

theorem nodup_ids_zipIdx (distinct : (profiles.map (·.id)).Nodup) :
    (profiles.zipIdx.map fun placed => placed.1.id).Nodup := by
  have h : profiles.zipIdx.map (fun placed => placed.1.id) = profiles.map (·.id) := by
    conv => rhs; rw [← List.zipIdx_map_fst 0 profiles, List.map_map]
    rfl
  rwa [h]

theorem id_ne_of_ne (distinct : (profiles.map (·.id)).Nodup) {a b : Placed} (ha : a ∈ profiles.zipIdx)
    (hb : b ∈ profiles.zipIdx) (h : b ≠ a) : b.1.id ≠ a.1.id := fun hid =>
  h (List.inj_on_of_nodup_map (nodup_ids_zipIdx distinct) hb ha hid)

theorem nodup_zipIdx (distinct : (profiles.map (·.id)).Nodup) : profiles.zipIdx.Nodup :=
  List.Nodup.of_map _ (nodup_ids_zipIdx distinct)

theorem id_ne (distinct : (profiles.map (·.id)).Nodup) (hp : p ∈ profiles) (hq : q ∈ profiles)
    (h : q ≠ p) : q.id ≠ p.id := fun hid => h (List.inj_on_of_nodup_map distinct hq hp hid)

/-- Who keeps the defaults of the project out once `p` is deselected. -/
theorem any_keepsOut_deselecting (distinct : (profiles.map (·.id)).Nodup) (hp : p ∈ profiles) :
    profiles.zipIdx.any (keepsOut (verdictAlone (deselecting context p.id))) = true ↔
      ∃ q ∈ profiles, q.isPom = true ∧ verdictAlone context q = .selected ∧ q ≠ p := by
  rw [any_keepsOut_iff]
  refine exists_congr fun q => and_congr_right fun hq => and_congr_right fun _ => ?_
  by_cases hqp : q = p
  · simp [hqp, verdictAlone_deselecting]
  · rw [verdictAlone, judgeAlone_deselecting_other (id_ne distinct hp hq hqp), verdictAlone]
    simp [hqp]

/-- The profile is selected in a resolution of all of them. -/
abbrev SelectedIn (profiles : List Profile) (context : Context) (p : Profile) : Prop :=
  Selected Activator.standard (expandedModel profiles context) context p

/-- No other profile of the project is selected, and `p` is one. -/
structure OnlySelectedPom (profiles : List Profile) (context : Context) (p : Profile) : Prop where
  pom : p.isPom = true
  selected : SelectedIn profiles context p
  only : ∀ q ∈ profiles, q.isPom = true → SelectedIn profiles context q → q = p

instance (profiles : List Profile) (context : Context) (p : Profile) :
    Decidable (OnlySelectedPom profiles context p) :=
  decidable_of_iff (p.isPom = true ∧ SelectedIn profiles context p ∧
    ∀ q ∈ profiles, q.isPom = true → SelectedIn profiles context q → q = p)
    ⟨fun ⟨hp, hs, ho⟩ => ⟨hp, hs, ho⟩, fun ⟨hp, hs, ho⟩ => ⟨hp, hs, ho⟩⟩

/-- A default of the project that a selected profile of the project keeps out. -/
def HeldBack (profiles : List Profile) (context : Context) (q : Profile) : Prop :=
  q.id ∉ context.inactiveIds ∧ q.isPom = true ∧ q.isDefault = true ∧ ¬ SelectedIn profiles context q

instance (profiles : List Profile) (context : Context) (q : Profile) :
    Decidable (HeldBack profiles context q) := inferInstanceAs (Decidable (_ ∧ _))

theorem filter_waits_verdictAlone (distinct : (profiles.map (·.id)).Nodup) (context : Context) :
    profiles.zipIdx.filter (waits (verdictAlone context)) =
      profiles.zipIdx.filter fun placed => HeldBack profiles context placed.1 := by
  refine List.filter_congr fun placed hmem => ?_
  rw [waits, ← verdictOn_standard distinct (List.fst_mem_of_mem_zipIdx hmem), ← waits, Bool.eq_iff_iff, waits_iff, decide_eq_true_iff, HeldBack]

section

variable {i : Nat} (distinct : (profiles.map (·.id)).Nodup) (hi : profiles[i]? = some p)

include distinct hi

theorem verdictAlone_deselecting_rest (b : Placed) (hb : b ∈ profiles.zipIdx) (h : b ≠ (p, i)) :
    verdictAlone (deselecting context p.id) b.1 = verdictAlone context b.1 :=
  congrArg Prod.fst (judgeAlone_deselecting_other
    (id_ne_of_ne distinct (List.mk_mem_zipIdx_iff_getElem?.2 hi) hb h))

/-- Deselecting a profile takes it out. -/
theorem activePlaces_deselecting (h : ¬ OnlySelectedPom profiles context p) :
    activePlaces profiles (deselecting context p.id) = (activePlaces profiles context).erase (p, i) := by
  have hp : p ∈ profiles := List.mem_of_getElem? hi
  rw [activePlaces_eq distinct, activePlaces_eq distinct]
  refine arranged_of_out (nodup_zipIdx distinct) verdictAlone_deselecting
    (verdictAlone_deselecting_rest distinct hi) ?_
  rw [Bool.eq_iff_iff, any_keepsOut_deselecting distinct hp, any_keepsOut_iff]
  constructor
  · intro ⟨q, hq, hpom, hs, _⟩
    exact ⟨q, hq, hpom, hs⟩
  · intro ⟨q, hq, hpom, hs⟩
    by_cases hqp : q = p
    · -- `p` is not the only one, so there is a second one that is not `p`.
      subst hqp
      by_contra hnone
      refine h ⟨hpom, (verdictAlone_selected_iff distinct hq).1 hs, fun r hr hrpom hrs => ?_⟩
      by_contra hrq
      exact hnone ⟨r, hr, hrpom, (verdictAlone_selected_iff distinct hr).2 hrs, hrq⟩
    · exact ⟨q, hq, hpom, hs, hqp⟩

/-- Where it was the only selected one of the project, the defaults that it
kept out follow. -/
theorem activePlaces_deselecting_only (h : OnlySelectedPom profiles context p) :
    activePlaces profiles (deselecting context p.id) =
      (activePlaces profiles context).erase (p, i) ++
        profiles.zipIdx.filter fun placed => HeldBack profiles context placed.1 := by
  have hp : p ∈ profiles := List.mem_of_getElem? hi
  have hs : verdictAlone context p = .selected := (verdictAlone_selected_iff distinct hp).2 h.selected
  rw [activePlaces_eq distinct, activePlaces_eq distinct, ← filter_waits_verdictAlone distinct]
  refine arranged_of_last_out (nodup_zipIdx distinct) verdictAlone_deselecting hs
    (verdictAlone_deselecting_rest distinct hi) ?_ ?_
  · exact any_keepsOut_iff.2 ⟨p, hp, h.pom, hs⟩
  · rw [← Bool.not_eq_true, any_keepsOut_deselecting distinct hp]
    intro ⟨q, hq, hpom, hqs, hqp⟩
    exact hqp (h.only q hq hpom ((verdictAlone_selected_iff distinct hq).1 hqs))

theorem verdictAlone_selecting_rest {q : Profile} (hq : q ∈ profiles) (h : q ≠ p) :
    verdictAlone (selecting context p.id) q = verdictAlone context q :=
  congrArg Prod.fst (judgeAlone_selecting_other (id_ne distinct (List.mem_of_getElem? hi) hq h))

/-- Once `p` is selected the defaults of the project come in iff they did
before and `p` is not of the project. -/
theorem none_selected_selecting (hk : p.id ∉ context.inactiveIds) :
    (∀ q ∈ profiles, q.isPom = true → verdictAlone (selecting context p.id) q ≠ .selected) ↔
      p.isPom = false ∧ ∀ q ∈ profiles, q.isPom = true → verdictAlone context q ≠ .selected := by
  have hself : verdictAlone (selecting context p.id) p = .selected :=
    congrArg Prod.fst (judgeAlone_selecting hk)
  constructor
  · intro h
    have hp : p.isPom = false := by
      by_contra hpom
      exact h p (List.mem_of_getElem? hi) (by simpa using hpom) hself
    refine ⟨hp, fun q hq hqpom => ?_⟩
    rw [← verdictAlone_selecting_rest distinct hi hq (by rintro rfl; simp [hp] at hqpom)]
    exact h q hq hqpom
  · intro ⟨hp, h⟩ q hq hqpom
    rw [verdictAlone_selecting_rest distinct hi hq (by rintro rfl; simp [hp] at hqpom)]
    exact h q hq hqpom

/-- Selecting a profile brings it in; if it is of the project, it keeps the
defaults of the project out. -/
theorem mem_activePlaces_selecting (hk : p.id ∉ context.inactiveIds) (placed : Placed) :
    placed ∈ activePlaces profiles (selecting context p.id) ↔
      placed = (p, i) ∨ placed ∈ activePlaces profiles context ∧
        ¬ (p.isPom = true ∧ placed.1.isPom = true ∧ verdictAlone context placed.1 ≠ .selected) := by
  have hmem : (p, i) ∈ profiles.zipIdx := List.mk_mem_zipIdx_iff_getElem?.2 hi
  rw [mem_activePlaces distinct, mem_activePlaces distinct, none_selected_selecting distinct hi hk]
  by_cases ha : placed = (p, i)
  · simp [ha, hmem, verdictAlone, judgeAlone_selecting hk]
  by_cases hin : placed ∈ profiles.zipIdx
  · have hv : verdictAlone (selecting context p.id) placed.1 = verdictAlone context placed.1 :=
      congrArg Prod.fst (judgeAlone_selecting_other (id_ne_of_ne distinct hmem hin ha))
    rw [hv]
    cases hs : verdictAlone context placed.1 <;> cases hp : p.isPom <;> cases hq : placed.1.isPom <;>
      simp [ha, hin]
  · simp [ha, hin]

/-- Where a context only stops `p` from being looked at, the problems on `p` go
and the others stay. -/
theorem problems_without {other : Context} (hself : problemsAlone other p = [])
    (hrest : ∀ q ∈ profiles, q ≠ p → problemsAlone other q = problemsAlone context q) :
    problems (Selector.standard.resolve profiles other) =
      (profiles.eraseIdx i).flatMap (problemsAlone context) := by
  have hsplit : profiles = profiles.take i ++ p :: profiles.drop (i + 1) := by
    obtain ⟨hlt, rfl⟩ := List.getElem?_eq_some_iff.1 hi
    rw [← List.drop_eq_getElem_cons hlt, List.take_append_drop]
  have hne : ∀ q ∈ profiles.take i ++ profiles.drop (i + 1), q ≠ p := by
    have hn : profiles.Nodup := List.Nodup.of_map _ distinct
    rw [hsplit, List.nodup_middle, List.nodup_cons] at hn
    intro q hq hqp
    subst hqp
    exact hn.1 hq
  have hmem : ∀ q ∈ profiles.take i ++ profiles.drop (i + 1), q ∈ profiles := fun q hq =>
    (List.mem_append.1 hq).elim List.mem_of_mem_take List.mem_of_mem_drop
  rw [problems_standard distinct, List.eraseIdx_eq_take_drop_succ,
    ← List.flatMap_congr fun q hq => hrest q (hmem q hq) (hne q hq)]
  conv => lhs; rw [hsplit]
  rw [List.flatMap_append, List.flatMap_cons, hself, List.nil_append, List.flatMap_append]

end

/-- **What one more override changes.** Deselecting a profile takes it out and
nothing else, but for the defaults that only it kept out; selecting it brings it
in, and out go the other defaults of the project if it is of the project. The
problems are those from before without the ones on this profile. -/
theorem resolve_override {i : Nat} (distinct : (profiles.map (·.id)).Nodup) (hi : profiles[i]? = some p)
    (hk : p.id ∉ context.inactiveIds) :
    (∀ other, (Selector.standard.resolve profiles other).result = .ok (activePlaces profiles other)) ∧
    (¬ OnlySelectedPom profiles context p →
      activePlaces profiles (deselecting context p.id) = (activePlaces profiles context).erase (p, i)) ∧
    (OnlySelectedPom profiles context p →
      activePlaces profiles (deselecting context p.id) =
        (activePlaces profiles context).erase (p, i) ++
          profiles.zipIdx.filter fun placed => HeldBack profiles context placed.1) ∧
    (p.isPom = false → ∀ placed, placed ∈ activePlaces profiles (selecting context p.id) ↔
      placed = (p, i) ∨ placed ∈ activePlaces profiles context) ∧
    (p.isPom = true → ∀ placed, placed ∈ activePlaces profiles (selecting context p.id) ↔
      placed = (p, i) ∨ placed ∈ activePlaces profiles context ∧
        ¬ (placed.1.isPom = true ∧ ¬ SelectedIn profiles context placed.1)) ∧
    problems (Selector.standard.resolve profiles context) =
      profiles.flatMap (fun q => problems (Selector.standard.resolve [q] context)) ∧
    problems (Selector.standard.resolve profiles (deselecting context p.id)) =
      (profiles.eraseIdx i).flatMap (fun q => problems (Selector.standard.resolve [q] context)) ∧
    problems (Selector.standard.resolve profiles (selecting context p.id)) =
      (profiles.eraseIdx i).flatMap (fun q => problems (Selector.standard.resolve [q] context)) := by
  have hp : p ∈ profiles := List.mem_of_getElem? hi
  simp only [problems_alone]
  refine ⟨fun other => result_eq_activePlaces profiles other, activePlaces_deselecting distinct hi,
    activePlaces_deselecting_only distinct hi, fun hpom placed => ?_, fun hpom placed => ?_,
    problems_standard distinct context, ?_, ?_⟩
  · rw [mem_activePlaces_selecting distinct hi hk]
    simp [hpom]
  · rw [mem_activePlaces_selecting distinct hi hk]
    refine or_congr_right (and_congr_right fun hmem => ?_)
    have hin := List.fst_mem_of_mem_zipIdx ((mem_activePlaces distinct).1 hmem).1
    rw [ne_eq, verdictAlone_selected_iff distinct hin]
    simp [hpom]
  · refine problems_without distinct hi problemsAlone_deselecting fun q hq hqp => ?_
    rw [problemsAlone, judgeAlone_deselecting_other (id_ne distinct hp hq hqp), problemsAlone]
  · refine problems_without distinct hi ?_ fun q hq hqp => ?_
    · rw [problemsAlone, judgeAlone_selecting hk, List.filterMap_nil]
    · rw [problemsAlone, judgeAlone_selecting_other (id_ne distinct hp hq hqp), problemsAlone]

/-- Deselecting the one selected profile of the project lets both defaults in;
selecting one of these keeps the other out. -/
theorem override_only_selected :
    let docs : Profile := { id := "docs", activation := some { activeByDefault := true } }
    let ci : Profile := { id := "ci", activation := some { property := some { name := some "env" } } }
    let lint : Profile := { id := "lint", activation := some { activeByDefault := true } }
    let profiles := [docs, ci, lint]
    let context : Context := { userProperties := .ofList [("env", "ci")] }
    ((profiles.map (·.id)).Nodup ∧ profiles[1]? = some ci ∧ ci.id ∉ context.inactiveIds ∧
      OnlySelectedPom profiles context ci) ∧
      activePlaces profiles (deselecting context ci.id) = [(docs, 0), (lint, 2)] ∧
      (lint, 2) ∉ activePlaces profiles (selecting (deselecting context ci.id) docs.id) := by
  intro docs ci lint profiles context
  have distinct : (profiles.map (·.id)).Nodup := by decide
  have hk : ci.id ∉ context.inactiveIds := by decide
  have honly : OnlySelectedPom profiles context ci := by decide +kernel
  refine ⟨⟨distinct, rfl, hk, honly⟩, ?_, ?_⟩
  · rw [(resolve_override distinct (i := 1) (p := ci) rfl hk).2.2.1 honly]
    decide +kernel
  · rw [(resolve_override distinct (i := 0) (p := docs) rfl (by decide)).2.2.2.2.1 rfl]
    decide +kernel

end BuildProfiles.Resolution
