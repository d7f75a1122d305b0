/-
What a range keeps, and where judging it fails.

Both hold of every text that opens with a bracket, whatever bounds it turns out
to have. A version keeps to a bound on one side of it in the order of versions
(`keepsTo_true_iff`), so what a range keeps has no gaps (`range_convex`). And the
bounds are compared with in turn, the upper one only for a version that has
passed the lower one; that says where a version or a bound that cannot be read
is met (`satisfies_fails_iff`).
-/
import BuildProfiles.Proofs.VersionPreorder

namespace BuildProfiles.Version

variable {a b c version requirement : Text} {bound lower upper : Bound} {rest : List Bound}

/-! ## Where a version stands -/

/-- Where a version stands among all of them: the sequence of its numbers, the
first of which counts most. -/
def rank (version : Text) : Lex (Nat → Int) := toLex (component version)

/-- A comparison gives an answer for two numeric versions only, and then says how
they stand. -/
theorem compare_ok_iff {relation : Ordering} :
    compare a b = .ok relation ↔ Numeric a ∧ Numeric b ∧ relation.Compares (rank a) (rank b) := by
  constructor
  · intro h
    have hnumeric : Numeric a ∧ Numeric b := by
      by_contra hnot
      obtain ⟨text, herror⟩ := compare_error_iff.2 (not_and_or.1 hnot)
      rw [h] at herror
      cases herror
    rw [compare_eq hnumeric.1 hnumeric.2, Except.ok.injEq] at h
    subst h
    exact ⟨hnumeric.1, hnumeric.2, compares_component a b⟩
  · intro h
    obtain ⟨ha, hb, hcompares⟩ := h
    rw [compare_eq ha hb, (compares_component a b).inj hcompares]

/-- The two can be compared, and the first does not stand above the second. -/
def NotAbove (left right : Text) : Prop :=
  ∃ relation, compare left right = .ok relation ∧ relation ≠ .gt

theorem notAbove_iff :
    NotAbove a b ↔ Numeric a ∧ Numeric b ∧ (rank a = rank b ∨ rank a < rank b) := by
  constructor
  · intro h
    obtain ⟨relation, hrelation, hne⟩ := h
    obtain ⟨ha, hb, hcompares⟩ := compare_ok_iff.1 hrelation
    refine ⟨ha, hb, ?_⟩
    cases relation with
    | lt => exact .inr hcompares
    | eq => exact .inl hcompares
    | gt => exact absurd rfl hne
  · intro h
    obtain ⟨ha, hb, hlevel | hbelow⟩ := h
    · exact ⟨.eq, compare_ok_iff.2 ⟨ha, hb, hlevel⟩, by decide⟩
    · exact ⟨.lt, compare_ok_iff.2 ⟨ha, hb, hbelow⟩, by decide⟩

/-- Versions that are level compare alike with every text. -/
theorem compare_congr (h : compare a b = .ok .eq) (other : Text) : compare a other = compare b other := by
  obtain ⟨ha, hb, -⟩ := compare_ok_iff.1 h
  rw [compare_eq ha hb, Except.ok.injEq] at h
  have hsame := compareComponents_congr h
  simp only [compare, components, components?_eq ha, components?_eq hb]
  cases components? other with
  | none => rfl
  | some zs => exact congrArg Except.ok (hsame zs)

/-! ## One bound -/

theorem keepsTo_true_iff {side : Ordering} :
    keepsTo side version bound = .ok true ↔ bound.value = "" ∨
      ∃ relation, compare version bound.value = .ok relation ∧
        (relation = side ∨ relation = .eq ∧ bound.closed = true) := by
  by_cases hempty : bound.value = ""
  · simp [keepsTo, hempty]
  · rw [keepsTo, if_neg hempty, bind_eq_ok_iff, or_iff_right hempty]
    refine exists_congr fun relation => and_congr_right fun _ => ?_
    simp [pure, Except.pure]

/-- A version that passes a lower bound: there is none, or the version stands
above it, or level with it where it is closed. -/
def Passes (version : Text) (lower : Bound) : Prop :=
  lower.value = "" ∨ compare version lower.value = .ok .gt ∨
    compare version lower.value = .ok .eq ∧ lower.closed = true

instance (version : Text) (lower : Bound) : Decidable (Passes version lower) :=
  inferInstanceAs (Decidable (_ ∨ _ ∨ _ ∧ _))

theorem keepsTo_gt_iff_passes : keepsTo .gt version lower = .ok true ↔ Passes version lower := by
  rw [keepsTo_true_iff, Passes]
  refine or_congr_right ⟨?_, ?_⟩
  · rintro ⟨relation, h, rfl | ⟨rfl, hclosed⟩⟩
    · exact .inl h
    · exact .inr ⟨h, hclosed⟩
  · rintro (h | ⟨h, hclosed⟩)
    · exact ⟨.gt, h, .inl rfl⟩
    · exact ⟨.eq, h, .inr ⟨rfl, hclosed⟩⟩

/-- There is something to compare with, and one of the two is not numeric. -/
def Unreadable (version : Text) (bound : Bound) : Prop :=
  bound.value ≠ "" ∧ (¬ Numeric version ∨ ¬ Numeric bound.value)

instance (version : Text) (bound : Bound) : Decidable (Unreadable version bound) :=
  inferInstanceAs (Decidable (_ ∧ (_ ∨ _)))

theorem keepsTo_error_iff {side : Ordering} :
    (∃ error, keepsTo side version bound = .error error) ↔ Unreadable version bound := by
  by_cases hempty : bound.value = ""
  · simp [keepsTo, Unreadable, hempty]
  · rw [Unreadable, and_iff_right hempty, ← compare_error_iff, keepsTo, if_neg hempty]
    constructor
    · intro h
      obtain ⟨error, h⟩ := h
      rcases bind_eq_error_iff.1 h with h | ⟨relation, -, h⟩
      · obtain ⟨text, rfl⟩ := compare_error h
        exact ⟨text, h⟩
      · cases h
    · intro h
      obtain ⟨text, h⟩ := h
      exact ⟨_, bind_eq_error_iff.2 (.inl h)⟩

theorem compares_trans {α : Type} [Preorder α] {side : Ordering} {x y z : α} (hxy : side.Compares x y)
    (hyz : side.Compares y z) : side.Compares x z := by
  cases side with
  | lt => exact lt_trans hxy hyz
  | eq => exact Eq.trans hxy hyz
  | gt => exact gt_trans hxy hyz

/-- A version that keeps to a bound is not held back by going further to that side. -/
theorem keepsTo_of_further {side : Ordering} (hb : Numeric b)
    (hfurther : rank b = rank a ∨ side.Compares (rank b) (rank a))
    (ha : keepsTo side a bound = .ok true) : keepsTo side b bound = .ok true := by
  rw [keepsTo_true_iff] at ha ⊢
  refine ha.imp_right fun h => ?_
  obtain ⟨relation, hrelation, hside⟩ := h
  obtain ⟨-, hbound, hcompares⟩ := compare_ok_iff.1 hrelation
  rcases hfurther with hsame | hbeyond
  · exact ⟨relation, compare_ok_iff.2 ⟨hb, hbound, hsame ▸ hcompares⟩, hside⟩
  · have hpast : side.Compares (rank b) (rank bound.value) := by
      rcases hside with rfl | ⟨rfl, -⟩
      · exact compares_trans hbeyond hcompares
      · have hlevel : rank a = rank bound.value := hcompares
        exact hlevel ▸ hbeyond
    exact ⟨side, compare_ok_iff.2 ⟨hb, hbound, hpast⟩, .inl rfl⟩

/-! ## Two bounds -/

theorem within_true_iff :
    within version (lower :: upper :: rest) = .ok true ↔
      keepsTo .gt version lower = .ok true ∧ keepsTo .lt version upper = .ok true := by
  rw [within, bind_eq_ok_iff, clears_eq, staysUnder_eq]
  constructor
  · intro h
    obtain ⟨above, habove, hbelow⟩ := h
    cases above with
    | false => cases hbelow
    | true => exact ⟨habove, hbelow⟩
  · intro h
    obtain ⟨habove, hbelow⟩ := h
    exact ⟨true, habove, hbelow⟩

/-- The upper bound can only be stumbled over by a version that has passed the
lower one. -/
theorem within_error_iff :
    (∃ error, within version (lower :: upper :: rest) = .error error) ↔
      Unreadable version lower ∨ Passes version lower ∧ Unreadable version upper := by
  have hlower : (∃ error, keepsTo .gt version lower = .error error) ↔ Unreadable version lower :=
    keepsTo_error_iff
  have hupper : (∃ error, keepsTo .lt version upper = .error error) ↔ Unreadable version upper :=
    keepsTo_error_iff
  rw [← hlower, ← hupper, ← keepsTo_gt_iff_passes, within, clears_eq, staysUnder_eq]
  cases keepsTo .gt version lower with
  | error error => simp [bind, Except.bind]
  | ok above => cases above <;> simp [bind, Except.bind, pure, Except.pure]

theorem bounds_of_isRange (h : isRange requirement = true) :
    ∃ lower upper rest, bounds requirement = lower :: upper :: rest := by
  match hbounds : bounds requirement, two_le_length_bounds h with
  | lower :: upper :: rest, _ => exact ⟨lower, upper, rest, rfl⟩

/-- What is no range asks how the version's text starts, and that has an answer. -/
theorem exists_ok_of_not_isRange (h : isRange requirement = false) :
    ∃ answer, satisfies version requirement = .ok answer := by
  unfold satisfies
  split
  · exact ⟨_, rfl⟩
  · exact ⟨_, if_neg (by simp [h])⟩

/-- **A range has no gaps, however it is written.** What stands between two
versions that it keeps is kept as well, and of two level versions it cannot say
different things. -/
theorem range_convex (hrange : isRange requirement = true) :
    (∀ a b c, NotAbove a b → NotAbove b c → satisfies a requirement = .ok true →
      satisfies c requirement = .ok true → satisfies b requirement = .ok true) ∧
    ∀ a b, compare a b = .ok .eq → satisfies a requirement = satisfies b requirement := by
  obtain ⟨lower, upper, rest, hbounds⟩ := bounds_of_isRange hrange
  simp only [satisfies_of_isRange hrange, hbounds]
  refine ⟨fun a b c hab hbc ha hc => ?_, fun a b h => ?_⟩
  · obtain ⟨-, hb, hfurther⟩ := notAbove_iff.1 hab
    obtain ⟨-, -, hfurther'⟩ := notAbove_iff.1 hbc
    have habove := keepsTo_of_further hb (hfurther.imp_left Eq.symm) (within_true_iff.1 ha).1
    have hbelow := keepsTo_of_further hb hfurther' (within_true_iff.1 hc).2
    exact within_true_iff.2 ⟨habove, hbelow⟩
  · simp only [within, clears, staysUnder, compare_congr h]

/-- The middle piece is no bound at all, and the last one has brackets to spare.
The version between the two others is level with none of them. -/
theorem range_convex_crooked :
    (isRange "[1.8, x,11-0.0)]" = true ∧ NotAbove "1.8" "+9" ∧ NotAbove "+9" "11" ∧
      satisfies "1.8" "[1.8, x,11-0.0)]" = .ok true ∧ satisfies "11" "[1.8, x,11-0.0)]" = .ok true) ∧
      satisfies "+9" "[1.8, x,11-0.0)]" = .ok true ∧
      satisfies "1_8.0" "[1.8, x,11-0.0)]" = .ok true := by
  have hrange : isRange "[1.8, x,11-0.0)]" = true := by decide +kernel
  have hab : NotAbove "1.8" "+9" := ⟨.lt, by decide +kernel, by decide⟩
  have hbc : NotAbove "+9" "11" := ⟨.lt, by decide +kernel, by decide⟩
  have ha : satisfies "1.8" "[1.8, x,11-0.0)]" = .ok true := by decide +kernel
  have hc : satisfies "11" "[1.8, x,11-0.0)]" = .ok true := by decide +kernel
  have hlevel : compare "1_8.0" "1.8" = .ok .eq := by decide +kernel
  obtain ⟨hconvex, hsame⟩ := range_convex hrange
  exact ⟨⟨hrange, hab, hbc, ha, hc⟩, hconvex _ _ _ hab hbc ha hc, (hsame _ _ hlevel).trans ha⟩

/-- **Judging a requirement fails at what cannot be read, and at nothing else.** It
takes a range, which always has two bounds, and a version or a bound that is not
numeric where the two are compared; with the upper bound that is only done once
the lower one is passed. -/
theorem satisfies_fails_iff (version requirement : Text) :
    ((∃ answer, satisfies version requirement = .ok answer) ∨
      ∃ text, satisfies version requirement = .error (.nonNumeric text)) ∧
    (isRange requirement = true → 2 ≤ (bounds requirement).length) ∧
    ((∃ error, satisfies version requirement = .error error) ↔
      isRange requirement = true ∧ ∃ lower upper rest, bounds requirement = lower :: upper :: rest ∧
        (Unreadable version lower ∨ Passes version lower ∧ Unreadable version upper)) ∧
    (isRange requirement = false → ∃ answer, satisfies version requirement = .ok answer) := by
  refine ⟨?_, two_le_length_bounds, ?_, exists_ok_of_not_isRange⟩
  · cases h : satisfies version requirement with
    | ok answer => exact .inl ⟨answer, rfl⟩
    | error error =>
      obtain ⟨text, rfl⟩ := satisfies_error h
      exact .inr ⟨text, rfl⟩
  · cases hrange : isRange requirement with
    | false =>
      obtain ⟨answer, hanswer⟩ : ∃ answer, satisfies version requirement = .ok answer :=
        exists_ok_of_not_isRange hrange
      simp [hanswer]
    | true =>
      obtain ⟨lower, upper, rest, hbounds⟩ := bounds_of_isRange hrange
      rw [satisfies_of_isRange hrange, hbounds, within_error_iff, and_iff_right rfl]
      constructor
      · exact fun h => ⟨lower, upper, rest, rfl, h⟩
      · rintro ⟨_, _, _, hsame, h⟩
        cases hsame
        exact h

/-- The upper bound is not numeric. A version below the lower one never gets to
it, and a text that is no range is not read as numbers. -/
theorem satisfies_fails_late :
    (isRange "[11,y,x)" = true ∧ isRange "!17" = false) ∧ 2 ≤ (bounds "[11,y,x)").length ∧
      (∃ error, satisfies "12" "[11,y,x)" = .error error) ∧
      (∃ answer, satisfies "9" "[11,y,x)" = .ok answer) ∧
      ∃ answer, satisfies "17-ea" "!17" = .ok answer := by
  have hrange : isRange "[11,y,x)" = true := by decide +kernel
  have hprefix : isRange "!17" = false := by decide +kernel
  have hbounds : bounds "[11,y,x)" = [⟨"11", true⟩, ⟨"x", false⟩] := by decide +kernel
  obtain ⟨-, htwo, hfails, -⟩ := satisfies_fails_iff "12" "[11,y,x)"
  obtain ⟨houtcome, -, hfails', -⟩ := satisfies_fails_iff "9" "[11,y,x)"
  obtain ⟨-, -, -, hread⟩ := satisfies_fails_iff "17-ea" "!17"
  refine ⟨⟨hrange, hprefix⟩, htwo hrange, ?_, ?_, hread hprefix⟩
  · exact hfails.2 ⟨hrange, _, _, _, hbounds, .inr ⟨by decide +kernel, by decide +kernel⟩⟩
  · refine houtcome.resolve_right fun h => ?_
    obtain ⟨text, htext⟩ := h
    obtain ⟨-, lower, upper, rest, hsame, hbad⟩ := hfails'.1 ⟨_, htext⟩
    rw [hbounds] at hsame
    cases hsame
    revert hbad
    decide +kernel

end BuildProfiles.Version
