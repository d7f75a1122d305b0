/-
A selection is read back from what writes it.

`Spells` says how a marked id is written, and `Writes` which items write a row of
marked ids: blanks may stand around each, and items of blanks between them. However
the items are spread over values, cutting the values at their commas gives the
items back (`tokens_joined`), and each item gives back its id and its mark, so the
row comes back as it was (`marks_joined`).
-/
import BuildProfiles.Proofs.Selections

namespace BuildProfiles.Selection

open Text

/-! ## One item -/

/-- The ways to write a marked id. Without a mark it must not look marked. -/
inductive Spells : Bool × List CodePoint → List CodePoint → Prop
  | plus {id} : Spells (true, id) (.char '+' :: id)
  | bare {id} : id ≠ [] → id.head? ∉ [some (.char '!'), some (.char '-'), some (.char '+')] → Spells (true, id) id
  | bang {id} : Spells (false, id) (.char '!' :: id)
  | dash {id} : Spells (false, id) (.char '-' :: id)


variable {selected : Bool} {id spelled : List CodePoint}

theorem Spells.mark_eq (h : Spells (selected, id) spelled) : mark spelled = (selected, id) := by
  cases h with
  | plus => rfl
  | bare _ hunmarked => exact mark_eq_true_iff.2 (.inr ⟨rfl, hunmarked⟩)
  | bang => rfl
  | dash => rfl

/-- What is written of an id that can be written. -/
theorem Spells.shape (h : Spells (selected, id) spelled) (hid : Writable ',' id) :
    spelled ≠ [] ∧ .char ',' ∉ spelled ∧ Trimmed spelled := by
  have hmarked : ∀ c : CodePoint, isBlank c = false → c ≠ .char ',' →
      c :: id ≠ [] ∧ .char ',' ∉ c :: id ∧ Trimmed (c :: id) := fun c hblank hcomma =>
    ⟨by simp, by simp [hcomma.symm, hid.whole], hid.trimmed.cons hblank⟩
  cases h with
  | plus => exact hmarked '+' (by decide) (by decide)
  | bare hne _ => exact ⟨hne, hid.whole, hid.trimmed⟩
  | bang => exact hmarked '!' (by decide) (by decide)
  | dash => exact hmarked '-' (by decide) (by decide)

/-! ## A row of items -/

/-- The items write these marked ids, in this order. -/
inductive Writes : List (Bool × Text) → List (List CodePoint) → Prop
  | nil : Writes [] []
  | blank {selections items pad} : Blank pad → Writes selections items →
      Writes selections (pad :: items)
  | marked {selected id spelled left right selections items} :
      Writable ',' id.toList → Spells (selected, id.toList) spelled → Blank left → Blank right →
      Writes selections items →
      Writes ((selected, id) :: selections) ((left ++ spelled ++ right) :: items)

/-- A value: items with commas between them. -/
def joined (items : List (List CodePoint)) : Text := Text.ofList (List.intercalate [.char ','] items)

variable {selections : List (Bool × Text)} {items : List (List CodePoint)}

/-- The items of a row have no comma in them, so that they can be told apart. -/
theorem Writes.whole (h : Writes selections items) : ∀ item ∈ items, .char ',' ∉ item := by
  have hblank : isBlank ',' = false := by decide
  induction h with
  | nil => simp
  | blank hpad _ ih => exact List.forall_mem_cons.2 ⟨hpad.notMem hblank, ih⟩
  | marked hid hspelled hleft hright _ ih =>
    refine List.forall_mem_cons.2 ⟨?_, ih⟩
    simp [hleft.notMem hblank, hright.notMem hblank, (hspelled.shape hid).2.1]

/-- Of an item that writes an id the blanks are cut off, and one of blanks is dropped. -/
def kept (items : List (List CodePoint)) : List (List CodePoint) := (items.map trim).filter (· ≠ [])

theorem Writes.kept_eq (h : Writes selections items) :
    (kept items).map (fun token => ((mark token).1, Text.ofList (mark token).2)) = selections := by
  induction h with
  | nil => rfl
  | blank hpad _ ih =>
    rw [kept, List.map_cons, trim_blank hpad]
    exact ih
  | marked hid hspelled hleft hright _ ih =>
    obtain ⟨hne, -, htrimmed⟩ := hspelled.shape hid
    rw [kept, List.map_cons, trim_padded hleft htrimmed hright, List.filter_cons_of_pos (by simpa using hne),
      List.map_cons, hspelled.mark_eq, Text.ofList_toList]
    exact congrArg _ ih

/-! ## Values -/

/-- Cutting a value at its commas gives its items back. -/
theorem tokens_joined (h : ∀ item ∈ items, .char ',' ∉ item) : tokens (joined items) = kept items := by
  rw [tokens, joined, Text.toList_ofList]
  cases items with
  | nil => rfl
  | cons item items => rw [List.splitOn_intercalate (CodePoint.char ',') h (by simp), kept]

theorem marks_joined {groups : List (List (List CodePoint))} (h : Writes selections groups.flatten) :
    marks (groups.map joined) = selections := by
  have htokens : (groups.map joined).flatMap tokens = kept groups.flatten := by
    rw [List.flatMap_map, kept, List.map_flatten, List.filter_flatten, List.map_map, List.flatMap_def]
    refine congrArg List.flatten (List.map_congr_left fun group hgroup => ?_)
    exact tokens_joined fun item hitem => h.whole item (List.mem_flatten.2 ⟨group, hgroup, hitem⟩)
  rw [marks, htokens]
  exact h.kept_eq

theorem marks_append (xs ys : List Text) : marks (xs ++ ys) = marks xs ++ marks ys := by
  rw [marks, marks, marks, List.flatMap_append, List.map_append]

/-- **A selection is read back from whatever writes it**: the ids that are selected
and those that are deselected, each in order, however they are marked, padded and
spread over values. What further values write comes behind. -/
theorem parse_written :
    (∀ (selections : List (Bool × Text)) (groups : List (List (List CodePoint))),
      Writes selections groups.flatten →
      (parse (groups.map joined)).active = (selections.filter (·.1 = true)).map (·.2) ∧
      (parse (groups.map joined)).inactive = (selections.filter (·.1 = false)).map (·.2)) ∧
    ∀ xs ys : List Text,
      (parse (xs ++ ys)).active = (parse xs).active ++ (parse ys).active ∧
      (parse (xs ++ ys)).inactive = (parse xs).inactive ++ (parse ys).inactive := by
  refine ⟨fun selections groups h => ?_, fun xs ys => ?_⟩
  · rw [parse, marks_joined h]
    exact ⟨congrArg _ (List.filter_congr fun _ _ => by simp),
      congrArg _ (List.filter_congr fun _ _ => by simp)⟩
  · simp [parse, withMark, marks_append]

/-- Ids that look marked, one that is empty and one with a blank inside, spread
over three values with items of blanks between them. -/
theorem parse_written_lookalikes :
    let selections : List (Bool × Text) := [(true, "-x"), (false, "!y"), (true, ""), (true, "a b"), (false, "+z")]
    let groups : List (List (List CodePoint)) := [
      [[.char '\t'] ++ ("+-x" : Text).toList ++ [.char '\u3000'], [' ', ' '], [.char ' '] ++ ("!!y" : Text).toList ++ []],
      [[], [] ++ ("+" : Text).toList ++ [.char ' ']],
      [[] ++ ("a b" : Text).toList ++ [], [] ++ ("-+z" : Text).toList ++ [.char '\n']]]
    Writes selections groups.flatten ∧
      groups.map joined = [("\t+-x\u3000,  , !!y" : Text), ",+ ", "a b,-+z\n"] ∧
      (parse (groups.map joined)).active = [("-x" : Text), "", "a b"] ∧
      (parse (groups.map joined)).inactive = [("!y" : Text), "+z"] := by
  intro selections groups
  have writes : Writes selections groups.flatten :=
    .marked (by decide) .plus (by decide) (by decide) <|
    .blank (by decide) <|
    .marked (by decide) .bang (by decide) (by decide) <|
    .blank (by decide) <|
    .marked (by decide) .plus (by decide) (by decide) <|
    .marked (by decide) (.bare (by decide) (by decide)) (by decide) (by decide) <|
    .marked (by decide) .dash (by decide) (by decide) .nil
  obtain ⟨hread, -⟩ := parse_written
  exact ⟨writes, by decide +kernel, hread selections groups writes⟩

end BuildProfiles.Selection
