/-
Computations that fail at their first step that fails.
-/
namespace BuildProfiles

variable {ε α β : Type} {error : ε}

theorem bind_eq_error_iff {x : Except ε α} {f : α → Except ε β} :
    x >>= f = .error error ↔ x = .error error ∨ ∃ a, x = .ok a ∧ f a = .error error := by
  cases x <;> simp [bind, Except.bind]

theorem bind_eq_ok_iff {x : Except ε α} {f : α → Except ε β} {b : β} :
    x >>= f = .ok b ↔ ∃ a, x = .ok a ∧ f a = .ok b := by
  cases x <;> simp [bind, Except.bind]

/-- A fold fails at the first element at which it does. -/
theorem foldlM_eq_error_iff {f : β → α → Except ε β} {l : List α} {b : β} :
    l.foldlM f b = .error error ↔ ∃ before a after c,
      l = before ++ a :: after ∧ before.foldlM f b = .ok c ∧ f c a = .error error := by
  induction l generalizing b with
  | nil =>
    constructor
    · exact fun h => nomatch h
    · rintro ⟨before, a, after, c, h, -⟩
      cases before <;> cases h
  | cons x l ih =>
    rw [List.foldlM_cons, bind_eq_error_iff]
    constructor
    · rintro (h | ⟨c, hc, h⟩)
      · exact ⟨[], x, l, b, rfl, rfl, h⟩
      · obtain ⟨before, a, after, d, rfl, hbefore, h⟩ := ih.1 h
        refine ⟨x :: before, a, after, d, rfl, ?_, h⟩
        rw [List.foldlM_cons, bind_eq_ok_iff]
        exact ⟨c, hc, hbefore⟩
    · rintro ⟨before, a, after, d, hl, hbefore, h⟩
      cases before with
      | nil =>
        cases hl
        cases hbefore
        exact .inl h
      | cons y before =>
        cases hl
        rw [List.foldlM_cons, bind_eq_ok_iff] at hbefore
        obtain ⟨c, hc, hbefore⟩ := hbefore
        exact .inr ⟨c, hc, ih.2 ⟨before, a, after, d, rfl, hbefore, h⟩⟩

end BuildProfiles
