/-
Stopping early makes no difference to an expansion.

`Rewritten` says in terms of the text alone what it is to replace its
expressions once, from left to right; a pass does just that (`rewritten_iff`).
An expansion looks for an opening first, stops at the first pass that changes
nothing, and gives up after the tenth. All the same its text is that of ten
passes, and it has given up when every one of them changed the text
(`expand_ten_passes`).
-/
import BuildProfiles.Proofs.Expansion

namespace BuildProfiles.Expression

variable {value? : Text → Option Text} {s t : List CodePoint}

/-! ## One replacement from left to right -/

/-- The first text becomes the second when its expressions are replaced once. An
expression is replaced as a whole, and a character is passed over only where
none opens with it. -/
inductive Rewritten (value? : Text → Option Text) : List CodePoint → List CodePoint → Prop
  | nil : Rewritten value? [] []
  | defined {name rest after value} : (Piece.expression name).Proper →
      value? (key name) = some value → Rewritten value? rest after →
      Rewritten value? ((Piece.expression name).spell ++ rest) (value.toList ++ after)
  | undefined {name rest after} : (Piece.expression name).Proper →
      value? (key name) = none → Rewritten value? rest after →
      Rewritten value? ((Piece.expression name).spell ++ rest) ((Piece.expression name).spell ++ after)
  | literal {c rest after} :
      (∀ name behind, (Piece.expression name).Proper →
        c :: rest ≠ (Piece.expression name).spell ++ behind) →
      Rewritten value? rest after → Rewritten value? (c :: rest) (c :: after)

theorem replaced_of_defined {name : List CodePoint} {value : Text} (h : value? (key name) = some value) :
    (Piece.expression name).replaced value? = value.toList := by
  rw [Piece.replaced, ← key, h]

theorem replaced_of_undefined {name : List CodePoint} (h : value? (key name) = none) :
    (Piece.expression name).replaced value? = (Piece.expression name).spell := by
  rw [Piece.replaced, ← key, h]

theorem rewritten_pass (s : List CodePoint) : Rewritten value? s (pass value? s) := by
  -- By the cut of the text: an expression opens it, or its first character stands alone.
  fun_induction pieces s with
  | case1 s name rest h ih =>
    have hspell := eq_of_opening? h
    rw [pass_of_opening? h]
    cases hvalue : value? (key name) with
    | some value =>
      rw [replaced_of_defined hvalue, hspell.1]
      exact .defined hspell.2 hvalue ih
    | none =>
      rw [replaced_of_undefined hvalue, hspell.1]
      exact .undefined hspell.2 hvalue ih
  | case2 =>
    rw [pass_nil]
    exact .nil
  | case3 c s h ih =>
    rw [pass_of_literal h]
    refine .literal (fun name behind hproper hopens => ?_) ih
    rw [hopens, opening?_expression hproper] at h
    cases h

/-- **A pass is one replacement from left to right**, and there is no other. -/
theorem rewritten_iff : Rewritten value? s t ↔ t = pass value? s := by
  constructor
  · intro h
    induction h with
    | nil => exact pass_nil.symm
    | defined hproper hvalue _ ih =>
      rw [pass_of_opening? (opening?_expression hproper), replaced_of_defined hvalue, ih]
    | undefined hproper hvalue _ ih =>
      rw [pass_of_opening? (opening?_expression hproper), replaced_of_undefined hvalue, ih]
    | @literal c rest after hnone _ ih =>
      have hclosed : opening? (c :: rest) = none := by
        cases hopens : opening? (c :: rest) with
        | none => rfl
        | some found =>
          obtain ⟨hspell, hproper⟩ := eq_of_opening? hopens
          exact absurd hspell (hnone _ _ hproper)
      rw [pass_of_literal hclosed, ih]
  · rintro rfl
    exact rewritten_pass s

/-! ## Giving up -/

/-- Whether the pass after `n` of them changes the text once more. -/
def Changes (value? : Text → Option Text) (s : List CodePoint) (n : Nat) : Prop :=
  pass value? ((pass value?)^[n] s) ≠ (pass value?)^[n] s

instance (value? : Text → Option Text) (s : List CodePoint) (n : Nat) :
    Decidable (Changes value? s n) := inferInstanceAs (Decidable (¬ _))

/-- Passes are used up exactly when each of them changed the text. -/
theorem repeatPass_gaveUp_iff (n : Nat) (s : List CodePoint) :
    (repeatPass value? n s).gaveUp = true ↔ ∀ k < n, Changes value? s k := by
  induction n generalizing s with
  | zero => simp [repeatPass]
  | succ n ih =>
    rw [Nat.forall_lt_succ_left', repeatPass]
    split
    · rename_i hfixed
      simp [Changes, hfixed]
    · rename_i hchanged
      rw [ih]
      -- The first pass changed the text, and the others start from what it made.
      exact (and_iff_right hchanged).symm

theorem expand_gaveUp_iff (s : List CodePoint) :
    (expand value? s).gaveUp = true ↔ ∀ n < maxPasses, Changes value? s n := by
  rw [expand]
  split
  · exact repeatPass_gaveUp_iff maxPasses s
  · rename_i h
    have hfixed : pass value? s = s := pass_of_not_hasOpening (by simpa using h)
    have hunchanged : ¬ Changes value? s 0 := fun hchanges => hchanges hfixed
    simp only [Bool.false_eq_true, false_iff]
    exact fun hall => hunchanged (hall 0 (by decide))

/-- A text that a pass leaves alone is the end of every longer row of passes. -/
theorem iterate_of_not_changes {n m : Nat} (hle : n ≤ m) (h : ¬ Changes value? s n) :
    (pass value?)^[m] s = (pass value?)^[n] s := by
  have hfixed : pass value? ((pass value?)^[n] s) = (pass value?)^[n] s := not_not.1 h
  obtain ⟨k, rfl⟩ := Nat.exists_eq_add_of_le' hle
  rw [Function.iterate_add_apply, Function.iterate_fixed hfixed]

/-- The record of an expansion that was given up. -/
def givenUp (text : Text) : Log.Record where
  level := .debug
  logger := "profile_activation.adapters.interpolation.property_interpolator"
  text := "Giving up resolving " ++ Text.quoted text ++ " after " ++ toString maxPasses ++ " passes"

theorem textLog_eq (text : Text) :
    Interpolator.textLog value? text =
      if ∀ n < maxPasses, Changes value? text.toList n then [givenUp text] else [] := by
  simp only [← expand_gaveUp_iff]
  rfl

theorem expandText_toList (text : Text) :
    (Interpolator.expandText value? text).toList = (pass value?)^[maxPasses] text.toList := by
  rw [Interpolator.expandText, Text.toList_ofList, expand_text]

/-- **Stopping early is no more than a short cut.** An expansion comes to the text
of ten passes. Where one of these leaves the text alone, that text is the result,
and expanding it again changes nothing. What is logged says that it was given up,
and says so exactly when each of the ten passes changed the text. -/
theorem expand_ten_passes (value? : Text → Option Text) (text : Text) :
    (∀ s t, Rewritten value? s t ↔ t = pass value? s) ∧
    (Interpolator.expandText value? text).toList = (pass value?)^[10] text.toList ∧
    (∀ n ≤ 10, ¬ Changes value? text.toList n →
      (Interpolator.expandText value? text).toList = (pass value?)^[n] text.toList ∧
      Interpolator.expandText value? (Interpolator.expandText value? text) =
        Interpolator.expandText value? text) ∧
    Interpolator.textLog value? text =
      if ∀ n : Nat, n < 10 → Changes value? text.toList n then [givenUp text] else [] := by
  refine ⟨fun s t => rewritten_iff, expandText_toList text, fun n hle hfixed => ?_, textLog_eq text⟩
  have hresult : (Interpolator.expandText value? text).toList = (pass value?)^[n] text.toList := by
    rw [expandText_toList]
    exact iterate_of_not_changes hle hfixed
  have hagain : ¬ Changes value? (Interpolator.expandText value? text).toList 0 := by
    rw [hresult]
    exact hfixed
  refine ⟨hresult, Text.toList_inj.1 ?_⟩
  rw [expandText_toList, iterate_of_not_changes (Nat.zero_le _) hagain]
  rfl

/-- Each of ten passes takes one name away, and only behind the last is there
nothing more to do: the result is final, though the expansion was given up. -/
theorem expand_given_up_at_the_end :
    let values : Properties := .ofList [
      ("a", "end"), ("b", "${a}"), ("c", "${b}"), ("d", "${c}"), ("e", "${d}"), ("f", "${e}"),
      ("g", "${f}"), ("h", "${g}"), ("i", "${h}"), ("j", "${i}")]
    ¬ Changes values.get? ("${j}" : Text).toList 10 ∧
      (Interpolator.expandText values.get? "${j}").toList = ("end" : Text).toList ∧
      Interpolator.expandText values.get? (Interpolator.expandText values.get? "${j}") =
        Interpolator.expandText values.get? "${j}" ∧
      Interpolator.textLog values.get? "${j}" = [givenUp "${j}"] := by
  intro values
  have hfixed : ¬ Changes values.get? ("${j}" : Text).toList 10 := by decide +kernel
  have hchanges : ∀ n < 10, Changes values.get? ("${j}" : Text).toList n := by decide +kernel
  have hend : (pass values.get?)^[10] ("${j}" : Text).toList = ("end" : Text).toList := by decide +kernel
  obtain ⟨-, -, hresult, hlog⟩ := expand_ten_passes values.get? "${j}"
  obtain ⟨htext, hagain⟩ := hresult 10 (Nat.le_refl 10) hfixed
  exact ⟨hfixed, htext.trans hend, hagain, hlog.trans (if_pos hchanges)⟩

-- What is put in may join with the text around it into another expression.
example :
    Interpolator.expandText (Properties.ofList [("a", "{b}"), ("b", "end")]).get? "$${a}" = "end" := by
  decide +kernel

end BuildProfiles.Expression
