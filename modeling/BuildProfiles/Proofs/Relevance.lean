/-
What a resolution reads of the properties.

A text without the opening of an expression stands for itself, so a profile whose
conditions are made of such texts is judged as it is written (`expanded_of_literal`).
The condition on a property then reads the property that it names, and the one on the
JDK reads a single system property. So contexts that agree on those have the same
active profiles and the same problems (`resolve_agreeing`), whatever else they hold.
-/
import BuildProfiles.Proofs.Negation

namespace BuildProfiles

/-! ## Texts that stand for themselves -/

theorem Expression.hasOpening_iff {s : List CodePoint} : hasOpening s = true ↔ Expression.opening <:+: s := by
  induction s with
  | nil => simp [hasOpening, opening]
  | cons c s ih =>
    rw [hasOpening, Bool.or_eq_true, ih, List.isPrefixOf_iff_prefix, List.infix_cons_iff]

namespace Interpolator

/-- Nothing in the conditions of the profile opens an expression. -/
def Literal (p : Profile) : Prop := ∀ text ∈ expandedTexts p, ¬ Expression.opening <:+: text.toList

instance (p : Profile) : Decidable (Literal p) := inferInstanceAs (Decidable (∀ text ∈ expandedTexts p, _))

variable {value? : Text → Option Text} {p : Profile}

theorem expandText_of_literal {text : Text} (h : ¬ Expression.opening <:+: text.toList) :
    expandText value? text = text := by
  have hopening : ¬ Expression.hasOpening text.toList = true := Expression.hasOpening_iff.not.2 h
  rw [expandText, Expression.expand, if_neg hopening, Text.ofList_toList]

theorem map_expandText_of_literal {text? : Option Text}
    (h : ∀ text ∈ text?.toList, ¬ Expression.opening <:+: text.toList) : text?.map (expandText value?) = text? := by
  cases text? with
  | none => rfl
  | some text => exact congrArg some (expandText_of_literal (h text (by simp)))

theorem expandProfile_of_literal (h : Literal p) : expandProfile value? p = p := by
  obtain ⟨id, source, activation, location⟩ := p
  rcases activation with - | ⟨byDefault, property, jdk⟩
  · rfl
  · have hjdk : jdk.map (expandText value?) = jdk :=
      map_expandText_of_literal fun text ht => h text (List.mem_append_right _ ht)
    rcases property with - | ⟨name, value⟩
    · simp only [expandProfile, expandActivation, Option.map_some, Option.map_none, hjdk]
    · have hname : name.map (expandText value?) = name := map_expandText_of_literal fun text ht =>
        h text (List.mem_append_left _ (List.mem_append_left _ ht))
      have hvalue : value.map (expandText value?) = value := map_expandText_of_literal fun text ht =>
        h text (List.mem_append_left _ (List.mem_append_right _ ht))
      simp only [expandProfile, expandActivation, Option.map_some, hjdk, hname, hvalue]

end Interpolator

namespace Resolution

open Interpolator

/-- The standard selector judges such a profile as it is written. -/
theorem expanded_of_literal {p : Profile} (h : Literal p) (context : Context) :
    expanded context p = { p with location := none } :=
  expandProfile_of_literal (p := { p with location := none }) h

/-! ## Contexts that agree -/

/-- The profile has a condition on the property of that name, with or without a
mark of negation. -/
inductive Consults (p : Profile) (name : Text) : Prop
  | bare {value : Option Text} : p.property? = some ⟨some name, value⟩ →
      name.toList.head? ≠ some (.char '!') → Consults p name
  | negated {value : Option Text} : p.property? = some ⟨some (marked name), value⟩ → Consults p name

theorem consults_iff {p : Profile} {name : Text} :
    Consults p name ↔
      ∃ condition, p.property? = some condition ∧
        ∃ text, condition.name = some text ∧ (negation text).2 = name := by
  constructor
  · intro h
    cases h with
    | bare h hmark => exact ⟨_, h, name, rfl, congrArg Prod.snd (negation_of_bare hmark)⟩
    | negated h => exact ⟨_, h, marked name, rfl, congrArg Prod.snd (negation_marked name)⟩
  · rintro ⟨⟨-, value⟩, h, text, rfl, rfl⟩
    rcases exists_eq_marked_or_bare text with ⟨rest, rfl⟩ | hmark
    · rw [negation_marked]
      exact .negated h
    · rw [negation_of_bare hmark]
      exact .bare h hmark

/-- The contexts select and deselect the same ids, and hold the same values where the
conditions of the profiles look. -/
structure AgreeOn (profiles : List Profile) (c d : Context) : Prop where
  selected : ∀ id, id ∈ c.activeIds ↔ id ∈ d.activeIds
  deselected : ∀ id, id ∈ c.inactiveIds ↔ id ∈ d.inactiveIds
  version : c.systemProperties.get? "java.version" = d.systemProperties.get? "java.version"
  property : ∀ p ∈ profiles, ∀ name, Consults p name → c.property? name = d.property? name

variable {profiles : List Profile} {p : Profile} {c d : Context}

theorem AgreeOn.reply (agree : AgreeOn profiles c d) (hp : p ∈ profiles) :
    ∀ a ∈ Activator.standard, ∀ question,
      a.reply question { p with location := none } c = a.reply question { p with location := none } d := by
  refine forall_standard.2 ⟨reply_property_congr rfl rfl rfl ?_, reply_jdk_congr rfl rfl rfl agree.version⟩
  intro condition hcondition name hne hname
  refine agree.property p hp name (consults_iff.2 ⟨condition, hcondition, ?_⟩)
  cases htext : condition.name with
  | none =>
    rw [htext] at hname
    exact absurd hname.symm hne
  | some text => exact ⟨text, rfl, by rwa [htext] at hname⟩

theorem AgreeOn.judgeAlone (agree : AgreeOn profiles c d) (hp : p ∈ profiles) (literal : Literal p) :
    judgeAlone c p = judgeAlone d p := by
  by_cases hk : p.id ∈ c.inactiveIds
  · rw [Resolution.judgeAlone, Resolution.judgeAlone, judge_of_inactive hk,
      judge_of_inactive ((agree.deselected p.id).1 hk)]
  have hk' : p.id ∉ d.inactiveIds := (agree.deselected p.id).not.1 hk
  by_cases ha : p.id ∈ c.activeIds
  · rw [Resolution.judgeAlone, Resolution.judgeAlone, judge_of_active hk ha,
      judge_of_active hk' ((agree.selected p.id).1 ha)]
  · have ha' : p.id ∉ d.activeIds := (agree.selected p.id).not.1 ha
    rw [judgeAlone_of_undecided hk ha, judgeAlone_of_undecided hk' ha', expanded_of_literal literal,
      expanded_of_literal literal, conditionHolds_congr (agree.reply hp) rfl]

/-- The condition on the JDK does not look at what the user sets. -/
theorem reply_jdk_userProperties (literal : Literal p) (user : Properties) (question : Question) :
    Activator.jdk.reply question (expanded { c with userProperties := user } p)
        { c with userProperties := user } =
      Activator.jdk.reply question (expanded c p) c := by
  rw [expanded_of_literal literal, expanded_of_literal literal]
  refine reply_jdk_congr ?_ ?_ ?_ ?_ question <;> rfl

/-- **Properties that no condition asks for do not count.** Where nothing opens an
expression, contexts that agree on the ids, on the properties that conditions name and
on the system's version of the JDK lead to the same active profiles and the same
problems. The user cannot change what becomes of a condition on the JDK. -/
theorem resolve_agreeing (literal : ∀ p ∈ profiles, Literal p) (agree : AgreeOn profiles c d) :
    (Selector.standard.resolve profiles c).result = (Selector.standard.resolve profiles d).result ∧
      problems (Selector.standard.resolve profiles c) = problems (Selector.standard.resolve profiles d) ∧
      ∀ p ∈ profiles, ∀ (user : Properties) (question : Question),
        Activator.jdk.reply question (expanded { c with userProperties := user } p)
            { c with userProperties := user } =
          Activator.jdk.reply question (expanded c p) c := by
  have hjudged : ∀ p ∈ profiles, judgeAlone c p = judgeAlone d p :=
    fun p hp => agree.judgeAlone hp (literal p hp)
  have hversion := fun p hp user question => reply_jdk_userProperties (c := c) (literal p hp) user question
  by_cases distinct : (profiles.map (·.id)).Nodup
  · refine ⟨?_, ?_, hversion⟩
    · rw [result_standard distinct, result_standard distinct]
      refine congrArg Except.ok (arranged_congr fun q hq => ?_)
      exact congrArg Prod.fst (hjudged q.1 (List.fst_mem_of_mem_zipIdx hq))
    · rw [problems_standard distinct, problems_standard distinct]
      exact List.flatMap_congr fun p hp => congrArg (·.2.filterMap Event.problem?) (hjudged p hp)
  · rw [resolve_of_repeated distinct, resolve_of_repeated distinct]
    exact ⟨rfl, rfl, hversion⟩

/-- In the second context the user defines what the system does in the first, and
a version of the JDK of his own, which is not asked for. -/
theorem resolve_agreeing_user_version :
    let profiles : List Profile := [
      { id := "docs", activation := some { property := some { name := some "!skip" } } },
      { id := "modern", activation := some { jdk := some "[17,)" } },
      { id := "local", activation := some { activeByDefault := true } }]
    let c : Context :=
      { systemProperties := .ofList [("java.version", "17.0.2"), ("skip", "")] }
    let d : Context :=
      { systemProperties := .ofList [("user.dir", "/srv"), ("java.version", "17.0.2")]
        userProperties := .ofList [("skip", ""), ("java.version", "11"), ("docs", "no")]
        projectDirectory := some (.ofText "/srv/app") }
    ((∀ p ∈ profiles, Literal p) ∧ AgreeOn profiles c d) ∧
      (Selector.standard.resolve profiles c).result = (Selector.standard.resolve profiles d).result ∧
      problems (Selector.standard.resolve profiles c) = problems (Selector.standard.resolve profiles d) ∧
      ∀ p ∈ profiles, ∀ (user : Properties) (question : Question),
        Activator.jdk.reply question (expanded { c with userProperties := user } p)
            { c with userProperties := user } =
          Activator.jdk.reply question (expanded c p) c := by
  intro profiles c d
  have literal : ∀ p ∈ profiles, Literal p := by decide
  have agree : AgreeOn profiles c d := by
    refine ⟨fun _ => Iff.rfl, fun _ => Iff.rfl, by decide, ?_⟩
    intro p hp name hname
    obtain ⟨condition, hcondition, text, htext, rfl⟩ := consults_iff.1 hname
    simp only [profiles, List.mem_cons, List.not_mem_nil, or_false] at hp
    rcases hp with rfl | rfl | rfl
    · cases hcondition
      cases htext
      decide
    · cases hcondition
    · cases hcondition
  exact ⟨⟨literal, agree⟩, resolve_agreeing literal agree⟩

end Resolution

end BuildProfiles
