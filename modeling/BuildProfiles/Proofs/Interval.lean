/-
Ranges that write two bounds mean intervals.

A numeric text holds no comma and no bracket (`not_mem_of_numeric`), so a range
between two of them is cut at its one comma, and each piece gives back the bound
and whether its bracket takes it in (`bounds_interval`). What is left is to
compare with each bound (`clears_iff`, `staysUnder_iff`).
-/
import BuildProfiles.Proofs.Requirements
import BuildProfiles.Proofs.VersionOrder
import Mathlib.Data.List.Basic

namespace BuildProfiles.Version

open Text

/-! ## The characters of a number -/

/-- A character that no number is written with. -/
def Foreign (c : CodePoint) : Prop :=
  Numeral.isMargin c = false ∧ c ≠ '-' ∧ c ≠ '+' ∧ digitValue? c = none

instance (c : CodePoint) : Decidable (Foreign c) := inferInstanceAs (Decidable (_ ∧ _))

variable {c : CodePoint}

theorem foreign_of_isBracket (h : isBracket c = true) : Foreign c ∧ isSeparator c = false := by
  simp only [isBracket, Bool.or_eq_true, beq_iff_eq] at h
  rcases h with ((rfl | rfl) | rfl) | rfl <;> decide

theorem not_mem_of_natural? {s : List CodePoint} (hc : Foreign c) (h : (Numeral.natural? s).isSome) :
    c ∉ s := by
  intro hmem
  unfold Numeral.natural? at h
  split at h
  · cases h
  · obtain ⟨digits, hdigits⟩ := Option.isSome_iff_exists.1 (Option.isSome_map ▸ h)
    have hdigit : digitValue? c ∈ digits.map some :=
      mapM_eq_some_iff.1 hdigits ▸ List.mem_map_of_mem hmem
    obtain ⟨d, -, hd⟩ := List.mem_map.1 hdigit
    rw [hc.2.2.2] at hd
    cases hd

theorem not_mem_of_signed? {s : List CodePoint} (hc : Foreign c) (h : (Numeral.signed? s).isSome) : c ∉ s := by
  unfold Numeral.signed? at h
  split at h
  · rename_i s
    rw [List.mem_cons, not_or]
    refine ⟨hc.2.1, not_mem_of_natural? hc ?_⟩
    cases hs : Numeral.natural? s <;> simp_all
  · rw [List.mem_cons, not_or]
    exact ⟨hc.2.2.1, not_mem_of_natural? hc (by simpa using h)⟩
  · exact not_mem_of_natural? hc (by simpa using h)

theorem not_mem_of_read? {s : List CodePoint} (hc : Foreign c) (h : (Numeral.read? s).isSome) : c ∉ s :=
  fun hmem => not_mem_of_signed? hc h (mem_trimBy hmem hc.1)

/-- Every character that does not separate pieces is in one. -/
theorem exists_mem_splitOnP {p : CodePoint → Bool} {s : List CodePoint} (hc : p c = false) (h : c ∈ s) :
    ∃ piece ∈ s.splitOnP p, c ∈ piece := by
  induction s with
  | nil => cases h
  | cons a s ih =>
    rw [List.splitOnP_cons_eq_if_modifyHead]
    split
    · rename_i ha
      rcases List.mem_cons.1 h with rfl | h
      · rw [hc] at ha; cases ha
      · obtain ⟨piece, hmem, hpiece⟩ := ih h
        exact ⟨piece, List.mem_cons_of_mem _ hmem, hpiece⟩
    · -- The first piece takes `a` in front; the others are those of `s`.
      obtain ⟨first, rest, hsplit⟩ := List.exists_cons_of_ne_nil (List.splitOnP_ne_nil p s)
      rw [hsplit, List.modifyHead_cons]
      rcases List.mem_cons.1 h with rfl | h
      · exact ⟨_, List.mem_cons_self, List.mem_cons_self⟩
      · obtain ⟨piece, hmem, hpiece⟩ := ih h
        rw [hsplit] at hmem
        rcases List.mem_cons.1 hmem with rfl | hmem
        · exact ⟨_, List.mem_cons_self, List.mem_cons_of_mem _ hpiece⟩
        · exact ⟨piece, List.mem_cons_of_mem _ hmem, hpiece⟩

theorem not_mem_of_numeric {text : Text} (h : Numeric text) (hc : Foreign c)
    (hs : isSeparator c = false) : c ∉ text.toList := by
  intro hmem
  obtain ⟨piece, hpiece, hin⟩ := exists_mem_splitOnP hs hmem
  exact not_mem_of_read? hc (h piece hpiece) hin

/-! ## The bounds of an interval -/

/-- A text that may stand as a bound in a range: nothing, or a numeric text
without blanks. -/
def IsBound (text : Text) : Prop :=
  text = "" ∨ Numeric text ∧ text.toList.any isBlank = false

instance (text : Text) : Decidable (IsBound text) := inferInstanceAs (Decidable (_ ∨ _))

namespace IsBound

variable {text : Text}

theorem not_blank (h : IsBound text) : ∀ c ∈ text.toList, isBlank c = false := by
  rcases h with rfl | h
  · exact fun c hc => nomatch hc
  · exact fun c hc => Bool.eq_false_iff.2 (List.any_eq_false.1 h.2 c hc)

theorem not_mem (h : IsBound text) (hc : Foreign c) (hs : isSeparator c = false) : c ∉ text.toList := by
  rcases h with rfl | h
  · exact List.not_mem_nil
  · exact not_mem_of_numeric h.1 hc hs

theorem not_bracket (h : IsBound text) : ∀ c ∈ text.toList, isBracket c = false := by
  intro c hmem
  rw [← Bool.not_eq_true]
  intro hb
  obtain ⟨hc, hs⟩ := foreign_of_isBracket hb
  exact h.not_mem hc hs hmem

theorem not_comma (h : IsBound text) : .char ',' ∉ text.toList := h.not_mem (by decide) (by decide)

end IsBound

def interval (opening closing : Char) (lo hi : Text) : Text :=
  Text.ofList [opening] ++ lo ++ "," ++ hi ++ Text.ofList [closing]

section

variable {opening closing : Char} {lo hi : Text}

theorem toList_interval :
    (interval opening closing lo hi).toList =
      (.char opening :: lo.toList) ++ .char ',' :: (hi.toList ++ [.char closing]) := by
  simp [interval]

theorem isBracket_opening (h : opening ∈ ['[', '(']) : isBracket opening = true := by
  rcases List.mem_pair.1 h with rfl | rfl <;> rfl

theorem isBracket_closing (h : closing ∈ [']', ')']) : isBracket closing = true := by
  rcases List.mem_pair.1 h with rfl | rfl <;> rfl

theorem bound?_lower (ho : opening ∈ ['[', '(']) (h : IsBound lo) :
    bound? (trim (.char opening :: lo.toList)) = some ⟨lo, opening == '['⟩ := by
  have hbracket := isBracket_opening ho
  have htrim : trim (.char opening :: lo.toList) = .char opening :: lo.toList :=
    trimBy_eq_self_of_forall (List.forall_mem_cons.2 ⟨isBlank_of_isBracket hbracket, h.not_blank⟩)
  have hvalue : Text.ofList (trimBy isBracket (.char opening :: lo.toList)) = lo := by
    rw [trimBy_cons hbracket, trimBy_eq_self_of_forall h.not_bracket, Text.ofList_toList]
  rw [htrim, bound?, hvalue]
  rcases List.mem_pair.1 ho with rfl | rfl <;> rfl

theorem bound?_upper (hc : closing ∈ [']', ')']) (h : IsBound hi) :
    bound? (trim (hi.toList ++ [.char closing])) = some ⟨hi, closing == ']'⟩ := by
  have hbracket := isBracket_closing hc
  have htrim : trim (hi.toList ++ [.char closing]) = hi.toList ++ [.char closing] :=
    trimBy_eq_self_of_forall (List.forall_mem_append.2
      ⟨h.not_blank, List.forall_mem_singleton.2 (isBlank_of_isBracket hbracket)⟩)
  have hvalue : Text.ofList (trimBy isBracket (hi.toList ++ [.char closing])) = hi := by
    rw [trimBy_concat hbracket, trimBy_eq_self_of_forall h.not_bracket, Text.ofList_toList]
  -- It opens with no bracket, so it is the closing one that counts.
  have hhead : ∀ o, isBracket o = true → o ≠ .char closing → (hi.toList ++ [CodePoint.char closing]).head? ≠ some o := by
    intro o ho hne hhead
    rcases List.mem_append.1 (List.mem_of_mem_head? hhead) with hmem | hmem
    · rw [h.not_bracket o hmem] at ho
      cases ho
    · exact hne (List.mem_singleton.1 hmem)
  have hopening : CodePoint.char '[' ≠ .char closing ∧ CodePoint.char '(' ≠ .char closing := by
    rcases List.mem_pair.1 hc with rfl | rfl <;> decide
  rw [htrim, bound?, hvalue, if_neg (hhead '[' rfl hopening.1), if_neg (hhead '(' rfl hopening.2),
    List.getLast?_concat]
  rcases List.mem_pair.1 hc with rfl | rfl <;> rfl

theorem bounds_interval (ho : opening ∈ ['[', '(']) (hc : closing ∈ [']', ')']) (hlo : IsBound lo)
    (hhi : IsBound hi) :
    bounds (interval opening closing lo hi) = [⟨lo, opening == '['⟩, ⟨hi, closing == ']'⟩] := by
  have hleft : .char ',' ∉ CodePoint.char opening :: lo.toList := by
    rw [List.mem_cons, not_or]
    exact ⟨by rintro ⟨⟩; simp at ho, hlo.not_comma⟩
  have hright : .char ',' ∉ hi.toList ++ [.char closing] := by
    rw [List.mem_append, not_or, List.mem_singleton]
    exact ⟨hhi.not_comma, by rintro ⟨⟩; simp at hc⟩
  have hcut : (interval opening closing lo hi).toList.splitOn (.char ',') =
      [.char opening :: lo.toList, hi.toList ++ [.char closing]] := by
    rw [toList_interval, List.splitOn_append_cons_self_of_not_mem hleft, List.splitOn_eq_singleton hright]
  rw [bounds, hcut]
  simp only [List.filterMap_cons, bound?_lower ho hlo, bound?_upper hc hhi, List.filterMap_nil]
  rfl

end

/-! ## Between the bounds -/

variable {version value : Text}

theorem keepsTo_eq {side : Ordering} {closed : Bool} (hne : value ≠ "") (hv : Numeric version)
    (hn : Numeric value) :
    keepsTo side version ⟨value, closed⟩ =
      .ok (compareComponents (numbers version) (numbers value) == side ||
        (compareComponents (numbers version) (numbers value) == .eq && closed)) := by
  rw [keepsTo, if_neg hne, compare_eq hv hn]
  rfl

/-- A bound is kept where it is empty, where the version lies on the wanted
side of it, and where the version is level with it and it is closed. -/
theorem keepsTo_iff (hv : Numeric version) (h : IsBound value) (side : Ordering) (closed : Bool) :
    ∃ answer, keepsTo side version ⟨value, closed⟩ = .ok answer ∧
      (answer = true ↔ value = "" ∨ compareComponents (numbers version) (numbers value) = side ∨
        Level version value ∧ closed = true) := by
  by_cases hempty : value = ""
  · exact ⟨true, by simp [keepsTo, hempty], by simp [hempty]⟩
  · refine ⟨_, keepsTo_eq hempty hv (h.resolve_left hempty).1, ?_⟩
    simp only [Bool.or_eq_true, Bool.and_eq_true, beq_iff_eq, compareComponents_eq_iff, hempty, false_or]

theorem clears_iff (hv : Numeric version) (h : IsBound value) (closed : Bool) :
    ∃ answer, clears version ⟨value, closed⟩ = .ok answer ∧
      (answer = true ↔ value = "" ∨ Precedes value version ∨ Level version value ∧ closed = true) := by
  simpa only [clears_eq, compareComponents_gt_iff] using keepsTo_iff hv h .gt closed

theorem staysUnder_iff (hv : Numeric version) (h : IsBound value) (closed : Bool) :
    ∃ answer, staysUnder version ⟨value, closed⟩ = .ok answer ∧
      (answer = true ↔ value = "" ∨ Precedes version value ∨ Level version value ∧ closed = true) := by
  simpa only [staysUnder_eq, compareComponents_lt_iff] using keepsTo_iff hv h .lt closed

/-- **A range means the interval that it writes.** -/
theorem satisfies_interval {opening closing : Char} {lo hi : Text} (hv : Numeric version)
    (ho : opening ∈ ['[', '(']) (hc : closing ∈ [']', ')']) (hlo : IsBound lo) (hhi : IsBound hi) :
    ∃ answer, satisfies version (interval opening closing lo hi) = .ok answer ∧
      (answer = true ↔
        (lo = "" ∨ Precedes lo version ∨ Level version lo ∧ opening = '[') ∧
        (hi = "" ∨ Precedes version hi ∨ Level version hi ∧ closing = ']')) := by
  obtain ⟨above, habove, hlower⟩ := clears_iff hv hlo (opening == '[')
  obtain ⟨below, hbelow, hupper⟩ := staysUnder_iff hv hhi (closing == ']')
  have hrange : isRange (interval opening closing lo hi) = true := by
    rw [isRange_iff, toList_interval]
    rcases List.mem_pair.1 ho with rfl | rfl
    · exact ⟨_, .inl rfl⟩
    · exact ⟨_, .inr rfl⟩
  refine ⟨above && below, ?_, ?_⟩
  · rw [satisfies_of_isRange hrange, bounds_interval ho hc hlo hhi, within, habove]
    cases above
    · rfl
    · exact hbelow
  · rw [Bool.and_eq_true, hlower, hupper, beq_iff_eq, beq_iff_eq]

/-- The lower bound is written with a sign and the upper one with digits of
another script. The version is level with the lower bound, so its bracket
decides. -/
theorem satisfies_at_lower_bound :
    (Numeric "11.0-0" ∧ '[' ∈ ['[', '('] ∧ '(' ∈ ['[', '('] ∧ ')' ∈ [']', ')'] ∧
      IsBound "+11" ∧ IsBound "٢٠") ∧
      satisfies "11.0-0" "[+11,٢٠)" = .ok true ∧ satisfies "11.0-0" "(+11,٢٠)" = .ok false := by
  have hv : Numeric "11.0-0" := by decide +kernel
  have hlo : IsBound "+11" := by decide +kernel
  have hhi : IsBound "٢٠" := by decide +kernel
  have hclosing : ')' ∈ [']', ')'] := by decide
  refine ⟨⟨hv, by decide, by decide, hclosing, hlo, hhi⟩, ?_, ?_⟩
  · obtain ⟨answer, hanswer, hiff⟩ :=
      satisfies_interval hv (show '[' ∈ ['[', '('] by decide) hclosing hlo hhi
    have htrue : answer = true := hiff.2 (by decide +kernel)
    rwa [htrue] at hanswer
  · obtain ⟨answer, hanswer, hiff⟩ :=
      satisfies_interval hv (show '(' ∈ ['[', '('] by decide) hclosing hlo hhi
    have hfalse : answer = false := by
      rw [← Bool.not_eq_true, hiff]
      decide +kernel
    rwa [hfalse] at hanswer

end BuildProfiles.Version
