/-
What a selection selects and deselects.

A text is cut at its commas. An item that is marked with `!` or `-` deselects
the id behind the mark; an item that is marked with `+`, or not at all, selects
it. The blanks around an item do not count, and an item of blanks is none.
-/
import BuildProfiles.CommandLine.Selection

namespace BuildProfiles

open Text

/-- An item of the text selects the id. -/
def Selects (text id : Text) : Prop :=
  ∃ item ∈ text.toList.splitOn (.char ','), trim item = .char '+' :: id.toList ∨
    trim item = id.toList ∧ id ≠ "" ∧ id.toList.head? ∉ [some (.char '!'), some (.char '-'), some (.char '+')]

instance (text id : Text) : Decidable (Selects text id) :=
  inferInstanceAs (Decidable (∃ item ∈ text.toList.splitOn (.char ','), trim item = .char '+' :: id.toList ∨
    trim item = id.toList ∧ id ≠ "" ∧ id.toList.head? ∉ [some (.char '!'), some (.char '-'), some (.char '+')]))

/-- An item of the text deselects the id. -/
def Deselects (text id : Text) : Prop :=
  ∃ item ∈ text.toList.splitOn (.char ','), trim item = .char '!' :: id.toList ∨ trim item = .char '-' :: id.toList

instance (text id : Text) : Decidable (Deselects text id) :=
  inferInstanceAs (Decidable (∃ item ∈ text.toList.splitOn (.char ','),
    trim item = .char '!' :: id.toList ∨ trim item = .char '-' :: id.toList))

namespace Selection

theorem mark_eq_true_iff {token id : List CodePoint} :
    mark token = (true, id) ↔
      token = .char '+' :: id ∨ token = id ∧ id.head? ∉ [some (.char '!'), some (.char '-'), some (.char '+')] := by
  unfold mark
  split
  case h_1 rest | h_2 rest =>
    refine ⟨nofun, ?_⟩
    rintro (h | ⟨rfl, h⟩)
    · cases h
    · simp at h
  case h_3 rest =>
    rw [Prod.mk.injEq, List.cons.injEq, eq_self, eq_self, true_and]
    refine (or_iff_left ?_).symm
    rintro ⟨rfl, h⟩
    simp at h
  case h_4 hbang hminus hplus =>
    rw [Prod.mk.injEq, eq_self, true_and]
    constructor
    · rintro rfl
      refine .inr ⟨rfl, fun hmark => ?_⟩
      simp only [List.mem_cons, List.not_mem_nil, or_false, List.head?_eq_some_iff] at hmark
      rcases hmark with ⟨rest, h⟩ | ⟨rest, h⟩ | ⟨rest, h⟩
      · exact hbang rest h
      · exact hminus rest h
      · exact hplus rest h
    · rintro (rfl | ⟨rfl, -⟩)
      · exact (hplus id rfl).elim
      · rfl

theorem mark_eq_false_iff {token id : List CodePoint} :
    mark token = (false, id) ↔ token = .char '!' :: id ∨ token = .char '-' :: id := by
  unfold mark
  split <;> simp_all

theorem mem_withMark {selected : Bool} {marks : List (Bool × Text)} {id : Text} :
    id ∈ withMark selected marks ↔ (selected, id) ∈ marks := by
  simp [withMark]

theorem mem_marks {texts : List Text} {selected : Bool} {id : Text} :
    (selected, id) ∈ marks texts ↔ ∃ text ∈ texts, ∃ item ∈ text.toList.splitOn (.char ','),
      trim item ≠ [] ∧ mark (trim item) = (selected, id.toList) := by
  have hmark : ∀ token, ((mark token).1, Text.ofList (mark token).2) = (selected, id) ↔
      mark token = (selected, id.toList) := fun token => by
    rw [Prod.mk.injEq, Prod.ext_iff, ← Text.toList_inj, Text.toList_ofList]
  simp only [marks, tokens, List.mem_map, List.mem_flatMap, List.mem_filter, decide_eq_true_eq, hmark]
  constructor
  · rintro ⟨_, ⟨text, htext, ⟨item, hitem, rfl⟩, hne⟩, hmarked⟩
    exact ⟨text, htext, item, hitem, hne, hmarked⟩
  · rintro ⟨text, htext, item, hitem, hne, hmarked⟩
    exact ⟨_, ⟨text, htext, ⟨item, hitem, rfl⟩, hne⟩, hmarked⟩

theorem mem_active_parse {texts : List Text} {id : Text} :
    id ∈ (parse texts).active ↔ ∃ text ∈ texts, Selects text id := by
  rw [parse, mem_withMark, mem_marks]
  refine exists_congr fun text => and_congr_right fun _ => exists_congr fun item => and_congr_right fun _ => ?_
  rw [mark_eq_true_iff]
  constructor
  · rintro ⟨hne, h | ⟨h, hhead⟩⟩
    · exact .inl h
    · refine .inr ⟨h, ?_, hhead⟩
      rintro rfl
      exact hne h
  · rintro (h | ⟨h, hne, hhead⟩)
    · exact ⟨by simp [h], .inl h⟩
    · exact ⟨by simpa [h, toList_eq_nil] using hne, .inr ⟨h, hhead⟩⟩

theorem mem_inactive_parse {texts : List Text} {id : Text} :
    id ∈ (parse texts).inactive ↔ ∃ text ∈ texts, Deselects text id := by
  rw [parse, mem_withMark, mem_marks]
  refine exists_congr fun text => and_congr_right fun _ => exists_congr fun item => and_congr_right fun _ => ?_
  rw [mark_eq_false_iff, and_iff_right_iff_imp]
  rintro (h | h) <;> simp [h]

end Selection

end BuildProfiles
