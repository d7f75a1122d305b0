/-
Comparing versions orders them.

On numeric versions the comparison is a total preorder, which it has from the
linear order of the sequences of numbers (`compareComponents_compares`). Two
versions are level in it when their numbers are the same up to the zeros at the
end (`padded_eq_iff`). Which of the separators stands between two numbers does
not matter (`components?_of_respelled`).
-/
import BuildProfiles.Proofs.Requirements
import BuildProfiles.Proofs.VersionOrder
import Mathlib.Data.List.DropRight

namespace BuildProfiles.Version

/-! ## Zeros at the end -/

/-- The numbers without the zeros at their end. -/
def significant (numbers : List Int) : List Int := numbers.rdropWhile (· == 0)

theorem padded_concat_zero (xs : List Int) : padded (xs ++ [0]) = padded xs := by
  funext i
  simp only [padded, List.getD_eq_getElem?_getD, List.getElem?_append]
  split
  · rfl
  · rename_i hi
    rw [List.getElem?_eq_none (Nat.le_of_not_lt hi)]
    cases i - xs.length <;> rfl

theorem padded_significant (xs : List Int) : padded (significant xs) = padded xs := by
  induction xs using List.reverseRecOn with
  | nil => rfl
  | append_singleton xs x ih =>
    rw [significant, List.rdropWhile_concat]
    split
    · rename_i hx
      rw [beq_iff_eq.1 hx, padded_concat_zero]
      exact ih
    · rfl

theorem getLast?_significant (xs : List Int) : (significant xs).getLast? ≠ some 0 := by
  intro hlast
  have hzero : (significant xs).getLast _ = 0 := List.getLast_of_getLast?_eq_some hlast
  exact List.rdropWhile_last_not (· == 0) xs _ (beq_iff_eq.2 hzero)

theorem length_le_of_padded_eq {xs ys : List Int} (h : padded xs = padded ys)
    (hx : xs.getLast? ≠ some 0) : xs.length ≤ ys.length := by
  -- Otherwise the last number of `xs` stands where `ys` goes on with zeros.
  by_contra hlt
  have hlast : xs[xs.length - 1]? = some (padded xs (xs.length - 1)) := by
    have hin : xs.length - 1 < xs.length := by omega
    simp [padded, hin]
  have hzero : padded ys (xs.length - 1) = 0 := by
    have hout : ys.length ≤ xs.length - 1 := by omega
    simp [padded, hout]
  rw [h, hzero, ← List.getLast?_eq_getElem?] at hlast
  exact hx hlast

theorem eq_of_padded_eq {xs ys : List Int} (h : padded xs = padded ys) (hx : xs.getLast? ≠ some 0)
    (hy : ys.getLast? ≠ some 0) : xs = ys := by
  have hlength : xs.length = ys.length :=
    Nat.le_antisymm (length_le_of_padded_eq h hx) (length_le_of_padded_eq h.symm hy)
  refine List.ext_getElem hlength fun i hi hi' => ?_
  have hplace : padded xs i = padded ys i := congrFun h i
  simpa [padded, hi, hi'] using hplace

/-- **Two lists go on alike exactly when they are the same up to the zeros at
their end.** -/
theorem padded_eq_iff {xs ys : List Int} : padded xs = padded ys ↔ significant xs = significant ys := by
  refine ⟨fun h => ?_, fun h => ?_⟩
  · rw [← padded_significant xs, ← padded_significant ys] at h
    exact eq_of_padded_eq h (getLast?_significant xs) (getLast?_significant ys)
  · rw [← padded_significant xs, h, padded_significant]

/-! ## The order of lists of numbers -/

theorem compareComponents_swap (xs ys : List Int) :
    compareComponents ys xs = (compareComponents xs ys).swap := by
  have hswap : (compareComponents xs ys).swap.Compares (toLex (padded ys)) (toLex (padded xs)) :=
    Ordering.compares_swap.2 (compareComponents_compares xs ys)
  exact (compareComponents_compares ys xs).inj hswap

theorem compareComponents_trans {xs ys zs : List Int} (hxy : compareComponents xs ys ≠ .gt)
    (hyz : compareComponents ys zs ≠ .gt) : compareComponents xs zs ≠ .gt := by
  rw [(compareComponents_compares _ _).ne_gt] at hxy hyz ⊢
  exact hxy.trans hyz

theorem compareComponents_level_iff {xs ys : List Int} :
    compareComponents xs ys = .eq ↔ significant xs = significant ys := by
  rw [(compareComponents_compares xs ys).eq_eq, toLex_inj, padded_eq_iff]

/-- Lists that are level stand alike to every other one. -/
theorem compareComponents_congr {xs ys : List Int} (h : compareComponents xs ys = .eq) (zs : List Int) :
    compareComponents xs zs = compareComponents ys zs := by
  have hsame : toLex (padded xs) = toLex (padded ys) := (compareComponents_compares xs ys).eq_eq.1 h
  have hx := compareComponents_compares xs zs
  rw [hsame] at hx
  exact hx.inj (compareComponents_compares ys zs)

/-! ## Versions that cannot be read -/

variable {version left right : Text}

theorem isSome_components?_iff : (components? version).isSome = true ↔ Numeric version := by
  refine ⟨fun h piece hmem => ?_, fun h => ?_⟩
  · obtain ⟨read, hread⟩ := Option.isSome_iff_exists.1 h
    have hsome : Numeral.read? piece ∈ read.map some :=
      mapM_eq_some_iff.1 hread ▸ List.mem_map_of_mem hmem
    obtain ⟨n, -, hn⟩ := List.mem_map.1 hsome
    rw [← hn, Option.isSome_some]
  · rw [components?_eq h, Option.isSome_some]

theorem toOption_compare (left right : Text) :
    (compare left right).toOption =
      (components? left).bind fun xs => (components? right).map fun ys => compareComponents xs ys := by
  rw [compare, components, components]
  cases components? left with
  | none => rfl
  | some xs => cases components? right <;> rfl

/-- A comparison fails exactly when one of the two versions is not numeric. -/
theorem compare_error_iff :
    (∃ text, compare left right = .error (.nonNumeric text)) ↔ ¬ Numeric left ∨ ¬ Numeric right := by
  refine ⟨fun h => ?_, fun h => ?_⟩
  · obtain ⟨text, herror⟩ := h
    by_contra hboth
    rw [not_or, not_not, not_not] at hboth
    rw [compare_eq hboth.1 hboth.2] at herror
    cases herror
  · cases hcompare : compare left right with
    | error error =>
      obtain ⟨text, rfl⟩ := compare_error hcompare
      exact ⟨text, rfl⟩
    | ok relation =>
      have hread := toOption_compare left right
      rw [hcompare, eq_comm, Except.toOption, Option.bind_eq_some_iff] at hread
      obtain ⟨xs, hxs, hread⟩ := hread
      obtain ⟨ys, hys, -⟩ := Option.map_eq_some_iff.1 hread
      have hl : Numeric left := isSome_components?_iff.1 (by rw [hxs, Option.isSome_some])
      have hr : Numeric right := isSome_components?_iff.1 (by rw [hys, Option.isSome_some])
      exact (h.elim (· hl) (· hr)).elim

/-! ## Separators -/

/-- The same text, but for which of the separators stands at a place. -/
def Respelled (text other : Text) : Prop :=
  List.Forall₂ (fun c d => c = d ∨ isSeparator c = true ∧ isSeparator d = true) text.toList other.toList

instance (text other : Text) : Decidable (Respelled text other) :=
  inferInstanceAs (Decidable (List.Forall₂ _ _ _))

theorem splitOnP_of_respelled {s t : List CodePoint}
    (h : List.Forall₂ (fun c d => c = d ∨ isSeparator c = true ∧ isSeparator d = true) s t) :
    s.splitOnP isSeparator = t.splitOnP isSeparator := by
  induction h with
  | nil => rfl
  | cons hc _ ih =>
    rw [List.splitOnP_cons_eq_if_modifyHead, List.splitOnP_cons_eq_if_modifyHead, ih]
    rcases hc with rfl | ⟨hc, hd⟩
    · rfl
    · rw [if_pos hc, if_pos hd]

theorem components?_of_respelled {text other : Text} (h : Respelled text other) :
    components? text = components? other := by
  rw [components?, components?, splitOnP_of_respelled h]

/-! ## Versions -/

/-- **The order of versions is a total preorder.** Only a version that is not
numeric keeps two from being compared. Turning the two round turns the answer
round, and what is not above something that is not above a third is not above
the third. The level ones are those with the same numbers up to the zeros at the
end, and they stand alike to every third. And the answer is the same whichever
separators are written. -/
theorem compare_total_preorder (a b c : Text) :
    ((∃ text, compare a b = .error (.nonNumeric text)) ↔ ¬ Numeric a ∨ ¬ Numeric b) ∧
    (Numeric a → Numeric b → Numeric c → ∃ ab bc ac xs ys,
      compare a b = .ok ab ∧ compare b c = .ok bc ∧ compare a c = .ok ac ∧
      compare b a = .ok ab.swap ∧
      (ab ≠ .gt → bc ≠ .gt → ac ≠ .gt) ∧
      components? a = some xs ∧ components? b = some ys ∧
      (ab = .eq ↔ significant xs = significant ys) ∧
      (ab = .eq → ac = bc)) ∧
    (∀ a' b', Respelled a a' → Respelled b b' →
      (compare a b).toOption = (compare a' b').toOption) := by
  refine ⟨compare_error_iff, fun ha hb hc => ?_, fun a' b' ha hb => ?_⟩
  · have hswap : compareComponents (numbers b) (numbers a) =
        (compareComponents (numbers a) (numbers b)).swap := compareComponents_swap _ _
    exact ⟨_, _, _, _, _, compare_eq ha hb, compare_eq hb hc, compare_eq ha hc,
      hswap ▸ compare_eq hb ha, compareComponents_trans, components?_eq ha, components?_eq hb,
      compareComponents_level_iff, fun h => compareComponents_congr h _⟩
  · rw [toOption_compare, toOption_compare, components?_of_respelled ha, components?_of_respelled hb]

/-- The two first are level, though one has a sign, digits of another script and
a piece more; the third is above both. -/
theorem compare_level_versions :
    (Numeric "1.8" ∧ Numeric "+1-٨_00" ∧ Numeric "11") ∧
      compare "1.8" "+1-٨_00" = .ok .eq ∧ compare "+1-٨_00" "11" = .ok .lt ∧
      compare "1.8" "11" = .ok .lt ∧ Respelled "+1-٨_00" "+1.٨-00" ∧
      (compare "1.8" "+1.٨-00").toOption = some .eq := by
  have ha : Numeric "1.8" := by decide +kernel
  have hb : Numeric "+1-٨_00" := by decide +kernel
  have hc : Numeric "11" := by decide +kernel
  have hab : compare "1.8" "+1-٨_00" = .ok .eq := by decide +kernel
  have hbc : compare "+1-٨_00" "11" = .ok .lt := by decide +kernel
  have hspelled : Respelled "+1-٨_00" "+1.٨-00" := by decide +kernel
  obtain ⟨-, hnumeric, hanswer⟩ := compare_total_preorder "1.8" "+1-٨_00" "11"
  obtain ⟨ab, bc, ac, -, -, hab', hbc', hac, -, -, -, -, -, hsame⟩ := hnumeric ha hb hc
  rw [hab, Except.ok.injEq] at hab'
  rw [hbc, Except.ok.injEq] at hbc'
  rw [hsame hab'.symm, ← hbc'] at hac
  have hrespelled := hanswer "1.8" "+1.٨-00" (by decide +kernel) hspelled
  rw [hab] at hrespelled
  exact ⟨⟨ha, hb, hc⟩, hab, hbc, hac, hspelled, hrespelled.symm⟩

end BuildProfiles.Version
