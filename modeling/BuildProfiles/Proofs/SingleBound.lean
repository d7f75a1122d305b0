/-
Ranges that write one bound only.

A range such as `[11]` is given an upper bound that it does not write
(`bounds_single`), where `[11,)` has an empty one. So the two part at the
versions that reach that bound, and nowhere else.
-/
import BuildProfiles.Proofs.Interval

namespace BuildProfiles.Version

open Text

variable {version x : Text}

theorem bound?_enclosed (hx : IsBound x) : bound? (trim (.char '[' :: (x.toList ++ [.char ']']))) = some ⟨x, true⟩ := by
  have htrim : trim (.char '[' :: (x.toList ++ [.char ']'])) = .char '[' :: (x.toList ++ [.char ']']) := by
    have hinside : ∀ c ∈ x.toList ++ [.char ']'], isBlank c = false :=
      List.forall_mem_append.2 ⟨hx.not_blank, List.forall_mem_singleton.2 (by decide)⟩
    exact trimBy_eq_self_of_forall (List.forall_mem_cons.2 ⟨by decide, hinside⟩)
  have hvalue : Text.ofList (trimBy isBracket (.char '[' :: (x.toList ++ [.char ']']))) = x := by
    rw [trimBy_cons (by decide), trimBy_concat (by decide),
      trimBy_eq_self_of_forall hx.not_bracket, Text.ofList_toList]
  rw [htrim, bound?, hvalue]
  rfl

/-- A text with one pair of brackets around it is one bound, and the upper bound
that is not written comes behind it. -/
theorem bounds_single (hx : IsBound x) : bounds ("[" ++ x ++ "]") = [⟨x, true⟩, unboundedUpper] := by
  have hlist : ("[" ++ x ++ "]").toList = .char '[' :: (x.toList ++ [.char ']']) := by simp
  have hcomma : .char ',' ∉ .char '[' :: (x.toList ++ [.char ']']) := by
    simp only [List.mem_cons, List.mem_append, List.not_mem_nil, or_false, not_or]
    exact ⟨by decide, hx.not_comma, by decide⟩
  rw [bounds, hlist, List.splitOn_eq_singleton hcomma]
  simp only [List.filterMap_cons, bound?_enclosed hx, List.filterMap_nil]
  rfl

theorem bounds_open_ended (hx : IsBound x) :
    bounds ("[" ++ x ++ ",)") = [⟨x, true⟩, ⟨"", false⟩] := by
  have hwritten : "[" ++ x ++ ",)" = interval '[' ')' x "" := by simp [interval, ← Text.toList_inj]
  rw [hwritten]
  exact bounds_interval (by simp) (by simp) hx (.inl rfl)

theorem within_of_ok {lower upper : Bound} {above below : Bool} (ha : clears version lower = .ok above)
    (hb : staysUnder version upper = .ok below) :
    within version [lower, upper] = .ok (above && below) := by
  rw [within, ha]
  cases above with
  | false => rfl
  | true => exact hb

theorem satisfies_of_bounds {requirement : Text} {lower upper : Bound} {above below : Bool}
    (hrange : isRange requirement = true) (hbounds : bounds requirement = [lower, upper])
    (ha : clears version lower = .ok above) (hb : staysUnder version upper = .ok below) :
    satisfies version requirement = .ok (above && below) := by
  rw [satisfies_of_isRange hrange, hbounds, within_of_ok ha hb]

theorem Numeric.ne_empty (h : Numeric x) : x ≠ "" := by
  intro hempty
  rw [hempty] at h
  exact absurd h (by decide)

/-- A closed lower bound keeps the versions that do not compare less. -/
theorem clears_closed (hv : Numeric version) (hx : Numeric x) :
    clears version ⟨x, true⟩ = .ok (compareComponents (numbers version) (numbers x) != .lt) := by
  rw [clears_eq, keepsTo_eq hx.ne_empty hv hx]
  cases compareComponents (numbers version) (numbers x) <;> rfl

/-- An open upper bound keeps the versions that compare less. -/
theorem staysUnder_open (hv : Numeric version) (hx : Numeric x) :
    staysUnder version ⟨x, false⟩ = .ok (compareComponents (numbers version) (numbers x) == .lt) := by
  rw [staysUnder_eq, keepsTo_eq hx.ne_empty hv hx]
  cases compareComponents (numbers version) (numbers x) <;> rfl

/-- **A range with one bound ends at the bound that it does not write.** A
version from the one bound on meets `[x,)` in any case, and `[x]` only if it
compares less than that other bound: from there on the two answer differently. -/
theorem satisfies_single_bound (hv : Numeric version) (hx : Numeric x)
    (hblank : x.toList.any isBlank = false) :
    ∃ relation limit single wide,
      compare version x = .ok relation ∧ compare version unboundedUpper.value = .ok limit ∧
      satisfies version ("[" ++ x ++ "]") = .ok single ∧
      satisfies version ("[" ++ x ++ ",)") = .ok wide ∧
      (wide = true ↔ relation ≠ .lt) ∧
      (single = true ↔ relation ≠ .lt ∧ limit = .lt) ∧
      (single = wide ↔ relation = .lt ∨ limit = .lt) := by
  have hbound : IsBound x := .inr ⟨hx, hblank⟩
  have hlimit : Numeric unboundedUpper.value := by decide +kernel
  have habove := clears_closed hv hx
  have hbelow := staysUnder_open hv hlimit
  have hempty : staysUnder version ⟨"", false⟩ = .ok true := if_pos rfl
  have hrange : isRange ("[" ++ x ++ "]") = true := isRange_iff.2 ⟨x.toList ++ [.char ']'], .inl (by simp)⟩
  have hsingle := satisfies_of_bounds hrange (bounds_single hbound) habove hbelow
  have hrange' : isRange ("[" ++ x ++ ",)") = true :=
    isRange_iff.2 ⟨x.toList ++ [.char ',', .char ')'], .inl (by simp)⟩
  have hwide := satisfies_of_bounds hrange' (bounds_open_ended hbound) habove hempty
  refine ⟨_, _, _, _, compare_eq hv hx, compare_eq hv hlimit, hsingle, hwide, ?_, ?_, ?_⟩
  all_goals
    cases compareComponents (numbers version) (numbers x) <;>
      cases compareComponents (numbers version) (numbers unboundedUpper.value) <;> decide

/-- A version far above `11` meets `[11,)` and not `[11]`. -/
theorem satisfies_single_far :
    (Numeric "100000000.1" ∧ Numeric "11" ∧ ("11" : Text).toList.any isBlank = false) ∧
      satisfies "100000000.1" ("[" ++ ("11" : Text) ++ "]") = .ok false ∧
      satisfies "100000000.1" ("[" ++ ("11" : Text) ++ ",)") = .ok true := by
  have hv : Numeric "100000000.1" := by decide +kernel
  have hx : Numeric "11" := by decide +kernel
  have habove : compare "100000000.1" "11" = .ok .gt := by decide +kernel
  have hbeyond : compare "100000000.1" unboundedUpper.value = .ok .gt := by decide +kernel
  obtain ⟨relation, limit, single, wide, hrelation, hlimit, hsingle, hwide, hiff, hiff', -⟩ :=
    satisfies_single_bound hv hx (by decide)
  rw [habove, Except.ok.injEq] at hrelation
  rw [hbeyond, Except.ok.injEq] at hlimit
  have htrue : wide = true := hiff.2 (by simp [← hrelation])
  have hfalse : single = false := by
    rw [← Bool.not_eq_true, hiff', ← hlimit]
    simp
  exact ⟨⟨hv, hx, by decide⟩, hfalse ▸ hsingle, htrue ▸ hwide⟩

/-- Not every version from the one bound on is in the range. -/
theorem single_bound_not_unbounded : ¬ ∀ version x : Text, Numeric version → Numeric x →
    x.toList.any isBlank = false → ∃ relation, compare version x = .ok relation ∧
      (satisfies version ("[" ++ x ++ "]") = .ok true ↔ relation ≠ .lt) := by
  intro h
  have hv : Numeric "99999999" := by decide +kernel
  have hx : Numeric "11" := by decide +kernel
  have hrelation : compare "99999999" "11" = .ok .gt := by decide +kernel
  have hout : satisfies "99999999" ("[" ++ ("11" : Text) ++ "]") = .ok false := by decide +kernel
  obtain ⟨relation, hcompare, hiff⟩ := h "99999999" "11" hv hx (by decide)
  rw [hrelation, Except.ok.injEq] at hcompare
  rw [hout, ← hcompare] at hiff
  exact absurd (hiff.2 (by decide)) (by decide)

end BuildProfiles.Version
