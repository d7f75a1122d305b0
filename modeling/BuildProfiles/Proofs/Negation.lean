/-
A mark of negation makes a condition its own opposite.

A mark in front of a text is no part of an expression, so it stays in front of
what the text expands to (`expandText_marked`). A condition on a property without
a value is turned round by a mark in front of its name, one with a value by a mark
in front of the value (`Opposed.met_eq`), and neither has a fault then. So of two
profiles that are told apart by such a mark alone, one is active and the other is
not (`resolve_opposed`).
-/
import BuildProfiles.Proofs.Composition
import BuildProfiles.Proofs.Faults
import BuildProfiles.Proofs.Lookup
import BuildProfiles.Proofs.Passes
import Mathlib.Data.List.Permutation

namespace BuildProfiles

/-! ## A mark in front of a text -/

/-- The text with the mark of negation in front of it. -/
def marked (text : Text) : Text := "!" ++ text

/-- The text says something, and is not negated. -/
def Unmarked (text : Text) : Prop := text ≠ "" ∧ text.toList.head? ≠ some (.char '!')

instance (text : Text) : Decidable (Unmarked text) := inferInstanceAs (Decidable (_ ∧ _))

theorem toList_marked (text : Text) : (marked text).toList = .char '!' :: text.toList := by
  rw [marked, Text.toList_append]
  rfl

theorem marked_ne_empty (text : Text) : marked text ≠ "" := by
  intro h
  have hlist := toList_marked text
  rw [h] at hlist
  cases hlist

theorem negation_marked (text : Text) : negation (marked text) = (true, text) := by
  rw [negation, toList_marked]
  simp

theorem negation_of_bare {text : Text} (h : text.toList.head? ≠ some (.char '!')) : negation text = (false, text) := by
  unfold negation
  split
  · rename_i rest hopens
    exact absurd (by rw [hopens]; rfl) h
  · rfl

theorem Unmarked.negation_eq {text : Text} (h : Unmarked text) : negation text = (false, text) :=
  negation_of_bare h.2

/-- A text has a mark in front or it has none. -/
theorem exists_eq_marked_or_bare (text : Text) :
    (∃ rest, text = marked rest) ∨ text.toList.head? ≠ some (.char '!') := by
  by_cases h : text.toList.head? = some (.char '!')
  · obtain ⟨rest, hopens⟩ := List.head?_eq_some_iff.1 h
    refine .inl ⟨Text.ofList rest, ?_⟩
    rw [← Text.toList_inj, toList_marked, hopens, Text.toList_ofList]
  · exact .inr h

namespace Expression

variable {value? : Text → Option Text}

theorem pass_mark (s : List CodePoint) : pass value? (.char '!' :: s) = .char '!' :: pass value? s := by
  have hproper : (Piece.literal '!').Proper := by decide
  exact pass_of_literal (opening?_literal hproper)

theorem iterate_pass_mark (n : Nat) (s : List CodePoint) :
    (pass value?)^[n] (.char '!' :: s) = .char '!' :: (pass value?)^[n] s := by
  induction n generalizing s with
  | zero => rfl
  | succ n ih => rw [Function.iterate_succ_apply, pass_mark, ih, Function.iterate_succ_apply]

/-- **A mark stays in front of whatever a text expands to.** -/
theorem expandText_marked (text : Text) :
    Interpolator.expandText value? (marked text) = marked (Interpolator.expandText value? text) := by
  rw [← Text.toList_inj, toList_marked, expandText_toList, toList_marked, expandText_toList,
    iterate_pass_mark]

end Expression

/-! ## Conditions that are each other's opposite -/

namespace PropertyCondition

/-- Whether the condition holds, with the mark in front of its name read off it. -/
def met (condition : PropertyCondition) (context : Context) : Bool :=
  condition.holds (negation (condition.name.getD "")).2 (negation (condition.name.getD "")).1 context

/-- The condition with its texts read. -/
def mapTexts (read : Text → Text) (condition : PropertyCondition) : PropertyCondition :=
  ⟨condition.name.map read, condition.value.map read⟩

/-- The second condition is the first one with a mark of negation: in front of the
name where there is no value, and in front of the value where there is one. What
is so marked says something and has no mark yet, once it is read. -/
inductive Opposed (read : Text → Text) : PropertyCondition → PropertyCondition → Prop
  | name {name : Text} : Unmarked (read name) →
      Opposed read ⟨some name, none⟩ ⟨some (marked name), none⟩
  | value {name value : Text} : read name ≠ "" → read name ≠ "!" → Unmarked (read value) →
      Opposed read ⟨some name, some value⟩ ⟨some name, some (marked value)⟩

variable {condition other : PropertyCondition} {context : Context} {read : Text → Text}

theorem holds_of_value {written : Option Text} {value : Text} (hne : value ≠ "") (name : Text)
    (negated : Bool) :
    (PropertyCondition.mk written (some value)).holds name negated context =
      ((context.property? name == some (negation value).2) != (negation value).1) := by
  simp only [holds, Option.getD_some, if_neg hne]

/-- **Of two opposed conditions exactly one holds**, whatever the context, if a
mark stays in front of what is read. -/
theorem Opposed.met_eq (h : Opposed read condition other)
    (hread : ∀ text, read (marked text) = marked (read text)) :
    (other.mapTexts read).met context = !(condition.mapTexts read).met context := by
  cases h with
  | name hname =>
    simp only [met, mapTexts, Option.map_some, Option.map_none, Option.getD_some, hread, negation_marked,
      hname.negation_eq, holds, Option.getD_none, if_true]
    cases (context.property? _).any fun (text : Text) => text != "" <;> rfl
  | value hne hmark hvalue =>
    simp only [met, mapTexts, Option.map_some, Option.getD_some, hread]
    rw [holds_of_value (marked_ne_empty _), holds_of_value hvalue.1, negation_marked, hvalue.negation_eq]
    cases context.property? _ == some _ <;> rfl

theorem Opposed.named (h : Opposed read condition other)
    (hread : ∀ text, read (marked text) = marked (read text)) :
    ¬ (condition.mapTexts read).Nameless ∧ ¬ (other.mapTexts read).Nameless := by
  rw [nameless_iff, nameless_iff]
  cases h with
  | name hname =>
    simp only [mapTexts, Option.map_some, Option.getD_some, hread, negation_marked, hname.negation_eq]
    exact ⟨hname.1, hname.1⟩
  | value hne hmark _ =>
    simp only [mapTexts, Option.map_some, Option.getD_some, negation_eq_empty_iff, not_or]
    exact ⟨⟨hne, hmark⟩, hne, hmark⟩

end PropertyCondition

namespace Resolution

open Interpolator

variable {context : Context} {p q : Profile} {profiles : List Profile} {condition other : PropertyCondition}

/-! ## A profile with one condition -/

/-- The profile has this condition on a property and nothing else to turn it on. -/
def HasOnly (p : Profile) (condition : PropertyCondition) : Prop :=
  p.activation = some { property := some condition }

/-- What a resolution in the context makes of a written text. -/
def readIn (context : Context) (text : Text) : Text :=
  expandText (visible context context.projectDirectory) text

theorem readIn_marked (text : Text) : readIn context (marked text) = marked (readIn context text) :=
  Expression.expandText_marked text

theorem HasOnly.expanded (h : HasOnly p condition) :
    (expanded context p).property? = some (condition.mapTexts (readIn context)) ∧
      (Resolution.expanded context p).jdk? = none := by
  have hvalues : (values (request [] context)).get? = visible context context.projectDirectory :=
    get?_values ⟨[]⟩ context context.projectDirectory
  have hproperty : p.property? = some condition := by rw [Profile.property?, h]; rfl
  have hjdk : p.jdk? = none := by rw [Profile.jdk?, h]; rfl
  refine ⟨?_, ?_⟩
  · rw [Resolution.expanded, property?_expandProfile, hvalues]
    exact congrArg (Option.map _) hproperty
  · rw [Resolution.expanded, jdk?_expandProfile]
    exact congrArg (Option.map _) hjdk

theorem conditionMet_of_property (hproperty : q.property? = some condition) (hjdk : q.jdk? = none)
    (hnamed : ¬ condition.Nameless) :
    ConditionMet Activator.standard q context ↔ condition.met context = true := by
  have hpresent : (Activator.property.reply .present q context).answer = .ok true := by
    simp [Activator.property, hproperty]
  have habsent : (Activator.jdk.reply .present q context).answer = .ok false := by
    simp [Activator.jdk, hjdk]
  have hactive : (Activator.property.reply .active q context).answer = .ok (condition.met context) := by
    simp only [Activator.property, hproperty, if_neg (PropertyCondition.nameless_iff.not.1 hnamed)]
    rfl
  constructor
  · intro h
    have hheld := (forall_standard.1 h.held).1 hpresent
    rw [hactive] at hheld
    exact Except.ok.inj hheld
  · intro h
    refine ⟨forall_standard.2 ⟨⟨true, hpresent⟩, ⟨false, habsent⟩⟩,
      ⟨Activator.property, List.mem_cons_self, hpresent⟩, forall_standard.2 ⟨fun _ => ?_, fun hasked => ?_⟩⟩
    · rw [hactive, h]
    · rw [habsent] at hasked
      cases hasked

/-- Such a profile is judged by its condition alone. -/
theorem HasOnly.verdictAlone (h : HasOnly p condition) (hp : Undecided context p)
    (hnamed : ¬ (condition.mapTexts (readIn context)).Nameless) :
    verdictAlone context p = if (condition.mapTexts (readIn context)).met context then .selected else .inactive := by
  have hdefault : p.isDefault = false := by rw [Profile.isDefault, h]; rfl
  have hholds : (conditionHolds Activator.standard (Resolution.expanded context p) p.location context).1 =
      (condition.mapTexts (readIn context)).met context := by
    rw [Bool.eq_iff_iff, conditionHolds_iff]
    exact conditionMet_of_property h.expanded.1 h.expanded.2 hnamed
  rw [Resolution.verdictAlone, judgeAlone_of_undecided hp.1 hp.2, hholds, Verdict.ofCondition, hdefault]
  rfl

theorem HasOnly.problemsAlone (h : HasOnly p condition)
    (hnamed : ¬ (condition.mapTexts (readIn context)).Nameless) : problemsAlone context p = [] := by
  have hfaults : faults context (Resolution.expanded context p) = [] := by
    rw [faults, nameFaults, versionFaults, h.expanded.1, h.expanded.2]
    simp [hnamed]
  rw [problemsAlone_eq, hfaults]
  split <;> rfl

/-! ## Two profiles -/

/-- One of the verdicts selects and the other does not. -/
def OneSelected (v w : Verdict) : Prop := v = .selected ∧ w = .inactive ∨ v = .inactive ∧ w = .selected

theorem OneSelected.symm {v w : Verdict} (h : OneSelected v w) : OneSelected w v :=
  Or.symm (h.imp And.symm And.symm)

theorem OneSelected.arranged {v : Profile → Verdict} (h : OneSelected (v p) (v q)) :
    ∃ placed ∈ [p, q].zipIdx, arranged v [p, q].zipIdx = [placed] := by
  rcases h with ⟨hp, hq⟩ | ⟨hp, hq⟩
  · exact ⟨(p, 0), by simp, by simp [Resolution.arranged, comesEarly, waits, keepsOut, hp, hq]⟩
  · exact ⟨(q, 1), by simp, by simp [Resolution.arranged, comesEarly, waits, keepsOut, hp, hq]⟩

/-- **Of two profiles that differ by a mark of negation alone exactly one is
active**, and there is nothing to report. -/
theorem resolve_opposed (both : profiles.Perm [p, q]) (distinct : p.id ≠ q.id)
    (hp : Undecided context p) (hq : Undecided context q)
    (hcondition : HasOnly p condition) (hother : HasOnly q other)
    (opposed : PropertyCondition.Opposed (readIn context) condition other) :
    (∃ placed ∈ profiles.zipIdx, (Selector.standard.resolve profiles context).result = .ok [placed]) ∧
      problems (Selector.standard.resolve profiles context) = [] := by
  obtain ⟨hnamed, hnamed'⟩ := opposed.named readIn_marked
  have hids : (profiles.map (·.id)).Nodup := (both.map _).nodup_iff.2 (by simpa using distinct)
  constructor
  · have hone : OneSelected (verdictAlone context p) (verdictAlone context q) := by
      rw [hcondition.verdictAlone hp hnamed, hother.verdictAlone hq hnamed', opposed.met_eq readIn_marked]
      cases (condition.mapTexts (readIn context)).met context with
      | true => exact .inl ⟨rfl, rfl⟩
      | false => exact .inr ⟨rfl, rfl⟩
    have harranged : ∃ placed ∈ profiles.zipIdx,
        arranged (verdictAlone context) profiles.zipIdx = [placed] := by
      rcases List.perm_pair.1 both with rfl | rfl
      · exact hone.arranged
      · exact hone.symm.arranged
    obtain ⟨placed, hmem, harranged⟩ := harranged
    exact ⟨placed, hmem, by rw [result_standard hids, harranged]⟩
  · rw [problems_standard hids, List.flatMap_eq_nil_iff]
    intro r hr
    rcases List.mem_pair.1 (both.mem_iff.1 hr) with rfl | rfl
    · exact hcondition.problemsAlone hnamed
    · exact hother.problemsAlone hnamed'

/-- The value holds an expression that stands for itself, and the property has just
the value that comes of it. -/
theorem resolve_opposed_self_reference :
    let value : Text := "${stage}-${loop}"
    let ci : PropertyCondition := { name := some "env", value := some value }
    let other : PropertyCondition := { name := some "env", value := some (marked value) }
    let docs : Profile := { id := "docs", activation := some { property := some other } }
    let release : Profile := { id := "release", activation := some { property := some ci } }
    let context : Context :=
      { systemProperties := .ofList [("env", "no")]
        userProperties := .ofList [("env", "ci-${loop}"), ("stage", "ci"), ("loop", "${loop}")] }
    ([docs, release].Perm [release, docs] ∧ release.id ≠ docs.id ∧ Undecided context release ∧
        Undecided context docs ∧ HasOnly release ci ∧ HasOnly docs other ∧
        PropertyCondition.Opposed (readIn context) ci other) ∧
      (∃ placed ∈ [docs, release].zipIdx,
        (Selector.standard.resolve [docs, release] context).result = .ok [placed]) ∧
      problems (Selector.standard.resolve [docs, release] context) = [] := by
  intro value ci other docs release context
  have both : [docs, release].Perm [release, docs] := .swap release docs []
  have distinct : release.id ≠ docs.id := by decide
  have opposed : PropertyCondition.Opposed (readIn context) ci other :=
    .value (by decide +kernel) (by decide +kernel) (by decide +kernel)
  exact ⟨⟨both, distinct, by decide, by decide, rfl, rfl, opposed⟩,
    resolve_opposed both distinct (by decide) (by decide) rfl rfl opposed⟩

end Resolution

end BuildProfiles
