/-
What comes of judging a requirement.

A range always has its two bounds (`two_le_length_bounds`): its first piece opens
with the bracket that makes it a range, and a second bound is added where none is
written. So the one thing that can go wrong is a version that cannot be read.
-/
import BuildProfiles.Proofs.Fallible
import BuildProfiles.Version.Requirement

namespace BuildProfiles.Version

open Text

variable {version requirement : Text}

theorem isRange_iff :
    isRange requirement = true ↔ ∃ s, requirement.toList = .char '[' :: s ∨ requirement.toList = .char '(' :: s := by
  unfold isRange
  split <;> simp_all

theorem satisfies_of_isRange (h : isRange requirement = true) :
    satisfies version requirement = within version (bounds requirement) := by
  unfold satisfies
  split
  · rename_i hs
    obtain ⟨s, ho | ho⟩ := isRange_iff.1 h <;> simp [ho] at hs
  · rw [if_pos h]

theorem isBlank_of_isBracket {c : CodePoint} (h : isBracket c = true) : isBlank c = false := by
  simp only [isBracket, Bool.or_eq_true, beq_iff_eq] at h
  rcases h with ((rfl | rfl) | rfl) | rfl <;> decide

/-- A piece that opens with a bracket is a bound, whatever follows. -/
theorem exists_bound?_of_head {piece : List CodePoint}
    (h : piece.head? = some (.char '[') ∨ piece.head? = some (.char '(')) : ∃ bound, bound? piece = some bound := by
  rcases h with h | h
  · exact ⟨_, by rw [bound?, if_pos h]⟩
  · exact ⟨_, by rw [bound?, if_neg (by simp [h]), if_pos h]⟩

theorem two_le_length_bounds (h : isRange requirement = true) : 2 ≤ (bounds requirement).length := by
  obtain ⟨o, s, hs, ho⟩ : ∃ o s, requirement.toList = o :: s ∧ (o = .char '[' ∨ o = .char '(') := by
    obtain ⟨s, hs | hs⟩ := isRange_iff.1 h
    · exact ⟨.char '[', s, hs, .inl rfl⟩
    · exact ⟨.char '(', s, hs, .inr rfl⟩
  have hbracket : isBracket o = true ∧ o ≠ .char ',' := by rcases ho with rfl | rfl <;> decide
  -- The bracket goes to the first piece, which trimming leaves it in front of.
  obtain ⟨first, rest, hsplit⟩ := List.exists_cons_of_ne_nil (List.splitOn_ne_nil (.char ',') s)
  have hcut : requirement.toList.splitOn (.char ',') = (o :: first) :: rest := by
    rw [hs, List.splitOn_cons_eq_if_modifyHead, if_neg (by simpa using hbracket.2), hsplit,
      List.modifyHead_cons]
  obtain ⟨bound, hbound⟩ : ∃ bound, bound? (trim (o :: first)) = some bound := by
    rw [trim, trimBy_cons_of_not (isBlank_of_isBracket hbracket.1)]
    exact exists_bound?_of_head (by simpa using ho)
  rw [bounds, hcut]
  simp only [List.filterMap_cons, hbound]
  split
  · simp
  · rename_i hlength
    exact Nat.le_of_not_lt hlength

/-! ## What goes wrong -/

variable {error : VersionError} {left right : Text} {bound : Bound}

theorem components_error (h : components version = .error error) : error = .nonNumeric version := by
  unfold components at h
  split at h <;> cases h
  rfl

theorem compare_error (h : compare left right = .error error) : ∃ text, error = .nonNumeric text := by
  rcases bind_eq_error_iff.1 h with h | ⟨xs, -, h⟩
  · exact ⟨left, components_error h⟩
  · rcases bind_eq_error_iff.1 h with h | ⟨ys, -, h⟩
    · exact ⟨right, components_error h⟩
    · cases h

/-- Whether the version keeps to the bound: the bound is empty, the version lies
on that side of it, or the version is level with it and it is closed. -/
def keepsTo (side : Ordering) (version : Text) (bound : Bound) : Except VersionError Bool :=
  if bound.value = "" then .ok true
  else do
    let relation ← compare version bound.value
    return relation == side || (relation == .eq && bound.closed)

theorem clears_eq (version : Text) (bound : Bound) : clears version bound = keepsTo .gt version bound :=
  rfl

theorem staysUnder_eq (version : Text) (bound : Bound) :
    staysUnder version bound = keepsTo .lt version bound := rfl

theorem keepsTo_error {side : Ordering} (h : keepsTo side version bound = .error error) :
    ∃ text, error = .nonNumeric text := by
  unfold keepsTo at h
  split at h
  · cases h
  · rcases bind_eq_error_iff.1 h with h | ⟨relation, -, h⟩
    · exact compare_error h
    · cases h

theorem within_error {bounds : List Bound} (hlength : 2 ≤ bounds.length)
    (h : within version bounds = .error error) : ∃ text, error = .nonNumeric text := by
  match bounds, hlength with
  | lower :: upper :: _, _ =>
    rcases bind_eq_error_iff.1 h with h | ⟨above, -, h⟩
    · exact keepsTo_error (clears_eq .. ▸ h)
    · cases above with
      | false => cases h
      | true => exact keepsTo_error (staysUnder_eq .. ▸ h)

/-- **All that can go wrong with a requirement is a version that cannot be read.** -/
theorem satisfies_error (h : satisfies version requirement = .error error) :
    ∃ text, error = .nonNumeric text := by
  by_cases hrange : isRange requirement = true
  · rw [satisfies_of_isRange hrange] at h
    exact within_error (two_le_length_bounds hrange) h
  · unfold satisfies at h
    split at h
    · cases h
    · rw [if_neg hrange] at h
      cases h

end BuildProfiles.Version
