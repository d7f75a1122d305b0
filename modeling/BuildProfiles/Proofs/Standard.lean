/-
The standard selector judges every profile for itself.

Its interpolator expands each profile on its own and its activators read
nothing but properties. So with distinct ids the verdict on a profile and the
problems that come with it depend on that profile and the context alone
(`judge_standard`), and the whole resolution is arranged from them
(`result_standard`, `problems_standard`).
-/
import BuildProfiles.Proofs.Containment
import Mathlib.Data.List.Basic

namespace BuildProfiles.Resolution

open Interpolator

/-! ## Checks that read the same -/

theorem ask_congr {activator : Activator × Nat} {question : Question} {p q : Profile} {c d : Context}
    (hid : p.id = q.id) (h : activator.1.reply question p c = activator.1.reply question q d) :
    ask activator question p c = ask activator question q d := by
  rw [ask, ask, h, hid]

theorem somePresent_congr {p q : Profile} {c d : Context} (hid : p.id = q.id)
    {activators : List (Activator × Nat)}
    (h : ∀ a ∈ activators, ∀ question, a.1.reply question p c = a.1.reply question q d) :
    somePresent p c activators = somePresent q d activators := by
  induction activators with
  | nil => rfl
  | cons a activators ih =>
    rw [somePresent, somePresent, ask_congr hid (h a (by simp) .present),
      ih fun b hb => h b (List.mem_cons_of_mem _ hb)]

theorem allActive_congr {p q : Profile} {c d : Context} (hid : p.id = q.id)
    {activators : List (Activator × Nat)}
    (h : ∀ a ∈ activators, ∀ question, a.1.reply question p c = a.1.reply question q d) :
    allActive p c activators = allActive q d activators := by
  induction activators with
  | nil => rfl
  | cons a activators ih =>
    rw [allActive, allActive, ask_congr hid (h a (by simp) .present),
      ask_congr hid (h a (by simp) .active), ih fun b hb => h b (List.mem_cons_of_mem _ hb)]

/-- Where the activators say the same, the conditions are judged the same. -/
theorem conditionHolds_congr {activators : List Activator} {p q : Profile} {c d : Context}
    (h : ∀ a ∈ activators, ∀ question, a.reply question p c = a.reply question q d)
    (hid : p.id = q.id) (location : Option Location) :
    conditionHolds activators p location c = conditionHolds activators q location d := by
  have h' : ∀ a ∈ activators.zipIdx, ∀ question, a.1.reply question p c = a.1.reply question q d :=
    fun a ha => h a.1 (List.fst_mem_of_mem_zipIdx ha)
  rw [conditionHolds, conditionHolds, check, check, somePresent_congr hid h', allActive_congr hid h', hid]

/-! ## What the standard selector reads -/

/-- The contexts hold the same properties, and the same project directory. -/
structure SameProperties (c d : Context) : Prop where
  system : c.systemProperties = d.systemProperties
  user : c.userProperties = d.userProperties
  directory : c.projectDirectory = d.projectDirectory

theorem SameProperties.refl (c : Context) : SameProperties c c := ⟨rfl, rfl, rfl⟩

section

variable {p q : Profile} {c d : Context}

/-- A condition on a property reads the property that it names, if it names one. -/
theorem reply_property_congr (hid : p.id = q.id) (hloc : p.location = q.location)
    (hproperty : p.property? = q.property?)
    (hlookup : ∀ condition, q.property? = some condition → ∀ name : Text, name ≠ "" →
      (negation (condition.name.getD "")).2 = name → c.property? name = d.property? name)
    (question : Question) :
    Activator.property.reply question p c = Activator.property.reply question q d := by
  cases question with
  | present => simp only [Activator.property, hproperty]
  | active =>
    simp only [Activator.property, hproperty, Profile.problem, hid, hloc]
    cases hq : q.property? with
    | none => rfl
    | some condition =>
      by_cases hname : (negation (condition.name.getD "")).2 = ""
      · simp only [hname, if_true]
      · simp only [hname, if_false, PropertyCondition.holds, hlookup condition hq _ hname rfl]

/-- A condition on the JDK reads the system's version of it. -/
theorem reply_jdk_congr (hid : p.id = q.id) (hloc : p.location = q.location) (hjdk : p.jdk? = q.jdk?)
    (hversion : c.systemProperties.get? Activator.jdkVersionName =
      d.systemProperties.get? Activator.jdkVersionName) (question : Question) :
    Activator.jdk.reply question p c = Activator.jdk.reply question q d := by
  cases question <;> simp only [Activator.jdk, hjdk, Profile.problem, hid, hloc, hversion]

theorem forall_standard {P : Activator → Prop} :
    (∀ a ∈ Activator.standard, P a) ↔ P Activator.property ∧ P Activator.jdk := by
  simp [Activator.standard]

theorem reply_standard_congr (hcd : SameProperties c d)
    (hid : p.id = q.id) (hloc : p.location = q.location) (hproperty : p.property? = q.property?)
    (hjdk : p.jdk? = q.jdk?) :
    ∀ a ∈ Activator.standard, ∀ question, a.reply question p c = a.reply question q d := by
  have hlookup : c.property? = d.property? := by
    funext name
    rw [Context.property?, Context.property?, hcd.system, hcd.user]
  rw [forall_standard]
  exact ⟨reply_property_congr hid hloc hproperty fun _ _ name _ _ => congrFun hlookup name,
    reply_jdk_congr hid hloc hjdk (by rw [hcd.system])⟩

end

/-- The model in which the standard selector judges conditions. -/
def expandedModel (profiles : List Profile) (context : Context) : Model :=
  (Interpolator.property.interpolate (request profiles context)).model

/-- The profile as the standard selector judges it. -/
def expanded (context : Context) (p : Profile) : Profile :=
  expandProfile (values (request [] context)).get? { p with location := none }

theorem leaves_standard (profiles : List Profile) (context : Context) :
    Leaves (Selector.standard.interpolator.interpolate (request profiles context))
      (expandedModel profiles context) := .handed rfl

theorem expandedModel_profiles (profiles : List Profile) (context : Context) :
    (expandedModel profiles context).profiles = profiles.map (expanded context) :=
  List.map_map

/-- With distinct ids a profile is judged by its own expansion. -/
theorem standsFor_expanded {profiles : List Profile} (distinct : (profiles.map (·.id)).Nodup)
    {p : Profile} (hp : p ∈ profiles) (context : Context) :
    StandsFor (expandedModel profiles context) p (expanded context p) := by
  -- The model keeps the order of the list, so nothing of this id is behind the expansion.
  obtain ⟨before, after, rfl⟩ := List.append_of_mem hp
  have hafter : p.id ∉ after.map (·.id) := by
    rw [List.map_append, List.map_cons, List.nodup_append] at distinct
    exact (List.nodup_cons.1 distinct.2.1).1
  refine .last (by rw [expandedModel_profiles, List.map_append, List.map_cons]) rfl ?_
  intro r hr hid
  obtain ⟨s, hs, rfl⟩ := List.mem_map.1 hr
  exact hafter (List.mem_map.2 ⟨s, hs, hid⟩)

/-! ## One profile at a time -/

/-- The verdict of the standard selector on a profile, and what comes with it. -/
def judgeAlone (context : Context) (p : Profile) : Verdict × List Event :=
  judge Activator.standard (expandedModel [p] context) context p

/-- The verdict of the standard selector on a profile. -/
def verdictAlone (context : Context) (p : Profile) : Verdict := (judgeAlone context p).1

/-- The problems that the standard selector reports on a profile. -/
def problemsAlone (context : Context) (p : Profile) : List Problem :=
  (judgeAlone context p).2.filterMap Event.problem?

theorem judgeAlone_of_undecided {context : Context} {p : Profile} (hk : p.id ∉ context.inactiveIds)
    (ha : p.id ∉ context.activeIds) :
    judgeAlone context p =
      (Verdict.ofCondition
        (conditionHolds Activator.standard (expanded context p) p.location context).1 p,
        (conditionHolds Activator.standard (expanded context p) p.location context).2) := by
  have hp : StandsFor (expandedModel [p] context) p (expanded context p) :=
    standsFor_expanded (by simp) (List.mem_singleton.2 rfl) context
  rw [judgeAlone, judge_of_undecided hk ha, standsFor_iff.1 hp]

/-- **In a list with distinct ids each profile is judged as if it were alone.** -/
theorem judge_standard {profiles : List Profile} (distinct : (profiles.map (·.id)).Nodup)
    {p : Profile} (hp : p ∈ profiles) (context : Context) :
    judge Activator.standard (expandedModel profiles context) context p = judgeAlone context p := by
  by_cases hk : p.id ∈ context.inactiveIds
  · rw [judgeAlone, judge_of_inactive hk, judge_of_inactive hk]
  by_cases ha : p.id ∈ context.activeIds
  · rw [judgeAlone, judge_of_active hk ha, judge_of_active hk ha]
  · rw [judge_of_undecided hk ha, judgeAlone_of_undecided hk ha,
      standsFor_iff.1 (standsFor_expanded distinct hp context)]

theorem verdictOn_standard {profiles : List Profile} (distinct : (profiles.map (·.id)).Nodup)
    {p : Profile} (hp : p ∈ profiles) {context : Context} :
    verdictOn Activator.standard (expandedModel profiles context) context p = verdictAlone context p :=
  congrArg Prod.fst (judge_standard distinct hp context)

theorem arranged_congr {v w : Profile → Verdict} {placed : List Placed}
    (h : ∀ q ∈ placed, v q.1 = w q.1) : arranged v placed = arranged w placed := by
  have hearly : placed.filter (comesEarly v) = placed.filter (comesEarly w) :=
    List.filter_congr fun q hq => by rw [comesEarly, comesEarly, h q hq]
  have hwaits : placed.filter (waits v) = placed.filter (waits w) :=
    List.filter_congr fun q hq => by rw [waits, waits, h q hq]
  have hout : placed.any (keepsOut v) = placed.any (keepsOut w) := by
    rw [Bool.eq_iff_iff, List.any_eq_true, List.any_eq_true]
    exact exists_congr fun q => and_congr_right fun hq => by rw [keepsOut, keepsOut, h q hq]
  rw [arranged, arranged, hearly, hwaits, hout]

variable {profiles : List Profile}

theorem result_standard (distinct : (profiles.map (·.id)).Nodup) (context : Context) :
    (Selector.standard.resolve profiles context).result =
      .ok (arranged (verdictAlone context) profiles.zipIdx) := by
  rw [result_resolve distinct (leaves_standard profiles context)]
  refine congrArg _ (arranged_congr fun q hq => ?_)
  exact verdictOn_standard distinct (List.fst_mem_of_mem_zipIdx hq)

theorem problems_standard (distinct : (profiles.map (·.id)).Nodup) (context : Context) :
    problems (Selector.standard.resolve profiles context) = profiles.flatMap (problemsAlone context) := by
  rw [problems_resolve distinct (leaves_standard profiles context)]
  refine List.flatMap_congr fun p hp => ?_
  exact congrArg (·.2.filterMap Event.problem?) (judge_standard distinct hp context)

theorem problems_alone (context : Context) (p : Profile) :
    problems (Selector.standard.resolve [p] context) = problemsAlone context p := by
  rw [problems_standard (by simp), List.flatMap_singleton]

/-- The active profiles of the standard selector, with their positions. -/
def activePlaces (profiles : List Profile) (context : Context) : List Placed :=
  (Selector.standard.resolve profiles context).result.toOption.getD []

/-- The standard selector always comes to a result. -/
theorem result_eq_activePlaces (profiles : List Profile) (context : Context) :
    (Selector.standard.resolve profiles context).result = .ok (activePlaces profiles context) := by
  obtain ⟨active, h⟩ := exists_result_standard profiles context
  rw [activePlaces, h]
  rfl

theorem activePlaces_eq (distinct : (profiles.map (·.id)).Nodup) (context : Context) :
    activePlaces profiles context = arranged (verdictAlone context) profiles.zipIdx := by
  rw [activePlaces, result_standard distinct]
  rfl

variable {context : Context} {p : Profile}

/-- The profiles that the standard selector finds active, by their verdicts. -/
theorem mem_activePlaces {placed : Placed} (distinct : (profiles.map (·.id)).Nodup) :
    placed ∈ activePlaces profiles context ↔
      placed ∈ profiles.zipIdx ∧ (verdictAlone context placed.1 = .selected ∨
        verdictAlone context placed.1 = .byDefault ∧ (placed.1.isPom = true →
          ∀ q ∈ profiles, q.isPom = true → verdictAlone context q ≠ .selected)) := by
  rw [activePlaces_eq distinct, mem_arranged_iff]

theorem verdictAlone_selected_iff (distinct : (profiles.map (·.id)).Nodup) (hp : p ∈ profiles) :
    verdictAlone context p = .selected ↔
      Selected Activator.standard (expandedModel profiles context) context p := by
  rw [← verdictOn_selected_iff, verdictOn_standard distinct hp]

end BuildProfiles.Resolution
