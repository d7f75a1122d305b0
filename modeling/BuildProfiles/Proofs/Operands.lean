/-
Which words stand for themselves on a command line.

A word without a dash in front is no option. One with a dash is none either if it
is a number or holds a space, unless it can be read as an option: with two dashes
as the beginning of a name, with one as a name of one letter and what is attached
to it. `StandsAlone` says so in terms of the names alone, and the words that are
classified as operands are just these (`classify_of_standsAlone`,
`operand?_of_classify`).
-/
import BuildProfiles.CommandLine.Usage
import Mathlib.Data.List.TakeWhile

namespace BuildProfiles.CommandLine

/-- The text can be read as the option of that name, whole or shortened. -/
def MayName (text : List CodePoint) (name : Text) : Prop :=
  if dashes.isPrefixOf text then text.takeWhile (· != .char '=') <+: name.toList
  else name.toList = text.take 2

instance (text : List CodePoint) (name : Text) : Decidable (MayName text name) :=
  inferInstanceAs (Decidable (ite _ _ _))

theorem mayName_of_two_dashes {text : List CodePoint} (h : dashes.isPrefixOf text = true) (name : Text) :
    MayName text name ↔ text.takeWhile (· != .char '=') <+: name.toList := by
  rw [MayName, if_pos h]

theorem mayName_of_one_dash {text : List CodePoint} (h : ¬ dashes.isPrefixOf text = true) (name : Text) :
    MayName text name ↔ name.toList = text.take 2 := by
  rw [MayName, if_neg h]

/-- The word is no option, where these are the names of the options. -/
def StandsAlone (names : List Text) (word : Text) : Prop :=
  word.toList.head? ≠ some (.char '-') ∨ word = "-" ∨
    (isNegativeNumber word.toList = true ∨ .char ' ' ∈ word.toList) ∧ ∀ name ∈ names, ¬ MayName word.toList name

instance (names : List Text) (word : Text) : Decidable (StandsAlone names word) :=
  inferInstanceAs (Decidable (_ ∨ _ ∨ _))

/-- The names of the options, in order. -/
def optionNames {α : Type} (flags : List (Flag α)) : List Text := flags.flatMap (·.names)

/-- A name is a dash and a letter, or it has two dashes and no sign of equality. -/
def Regular (name : Text) : Prop :=
  .char '=' ∉ name.toList ∧ (dashes.isPrefixOf name.toList = true ∨ name.toList.length = 2)

instance (name : Text) : Decidable (Regular name) := inferInstanceAs (Decidable (_ ∧ _))

section

variable {α : Type} {flags : List (Flag α)} {word : Text} {text : List CodePoint}

theorem map_nameTable : (nameTable flags).map Prod.fst = optionNames flags := by
  simp [nameTable, optionNames, List.map_flatMap, Function.comp_def]

theorem classify_operand (table : List (Text × Flag α)) (h : word.toList.head? ≠ some (.char '-')) :
    classify table word = .ok (.operand word) := by
  rw [classify]
  exact if_pos h

/-! ## Readings of a word with a dash -/

theorem operand?_readings {table : List (Text × Flag α)} : ∀ reading ∈ readings table text, reading.2.operand? = none := by
  intro reading hmem
  unfold readings at hmem
  simp only at hmem
  split at hmem
  · obtain ⟨entry, -, rfl⟩ := List.mem_map.1 hmem
    rfl
  · obtain ⟨entry, -, hentry⟩ := List.mem_filterMap.1 hmem
    split at hentry
    · cases hentry
      rfl
    · split at hentry
      · cases hentry
        rfl
      · cases hentry

/-- A text of two characters or more with one dash is the beginning of no name but itself. -/
theorem not_prefix_of_regular {name : Text} (hname : Regular name) (hlength : 2 ≤ text.length)
    (hdash : ¬ dashes.isPrefixOf text = true) (hother : name.toList ≠ text.take 2) :
    ¬ text.isPrefixOf name.toList = true := by
  intro h
  have hprefix : text <+: name.toList := List.isPrefixOf_iff_prefix.1 h
  rcases hname.2 with hlong | hshort
  · have hdashes : dashes <+: text :=
      List.prefix_of_prefix_length_le (List.isPrefixOf_iff_prefix.1 hlong) hprefix hlength
    exact hdash (List.isPrefixOf_iff_prefix.2 hdashes)
  · have htext : text = name.toList := hprefix.eq_of_length_le (hshort ▸ hlength)
    apply hother
    rw [htext, List.take_of_length_le (Nat.le_of_eq hshort)]

/-- The readings of a word are by the names that it may be. -/
theorem names_readings {table : List (Text × Flag α)} (regular : ∀ entry ∈ table, Regular entry.1)
    (hlength : 2 ≤ text.length) :
    (readings table text).map Prod.fst = (table.map Prod.fst).filter (MayName text ·) := by
  unfold readings
  simp only
  split
  · rename_i hdash
    rw [List.map_map, List.filter_map]
    refine congrArg (List.map Prod.fst) (List.filter_congr fun entry _ => ?_)
    rw [Bool.eq_iff_iff, Function.comp_apply, decide_eq_true_iff, mayName_of_two_dashes hdash,
      List.isPrefixOf_iff_prefix]
  · rename_i hdash
    induction table with
    | nil => rfl
    | cons entry table ih =>
      obtain ⟨hentry, hrest⟩ := List.forall_mem_cons.1 regular
      have htail := ih hrest
      simp only [mayName_of_one_dash hdash] at htail ⊢
      rw [List.filterMap_cons, List.map_cons, List.filter_cons]
      by_cases hname : entry.1.toList = text.take 2
      · simp only [hname, if_true, decide_true, List.map_cons, htail]
      · have hother := not_prefix_of_regular hentry hlength hdash hname
        simp only [hname, hother, if_false, decide_false, Bool.false_eq_true, htail]

theorem readings_eq_nil_iff {table : List (Text × Flag α)} (regular : ∀ entry ∈ table, Regular entry.1)
    (hlength : 2 ≤ text.length) :
    readings table text = [] ↔ ∀ name ∈ table.map Prod.fst, ¬ MayName text name := by
  rw [← List.map_eq_nil_iff, names_readings regular hlength, List.filter_eq_nil_iff]
  simp only [decide_eq_true_eq]

/-! ## Words that stand alone -/

/-- A short word with a dash is nothing but the dash. -/
theorem eq_dash (hdash : word.toList.head? = some (.char '-')) (hlength : ¬ 2 ≤ word.toList.length) : word = "-" := by
  obtain ⟨rest, hrest⟩ := List.head?_eq_some_iff.1 hdash
  rw [hrest, List.length_cons] at hlength
  have hnil : rest = [] := List.eq_nil_of_length_eq_zero (by omega)
  rw [← Text.toList_inj, hrest, hnil]
  rfl

/-- What a word attaches to a name makes it that option. -/
theorem mayName_of_takeWhile {name : Text} (hname : Regular name)
    (h : text.takeWhile (· != .char '=') = name.toList) : MayName text name := by
  by_cases hdash : dashes.isPrefixOf text = true
  · have hprefix : text.takeWhile (· != .char '=') <+: name.toList := h ▸ List.prefix_rfl
    rwa [mayName_of_two_dashes hdash]
  · have hprefix : name.toList <+: text := h ▸ List.takeWhile_prefix _
    rw [mayName_of_one_dash hdash]
    rcases hname.2 with hlong | hshort
    · exact absurd (List.isPrefixOf_iff_prefix.2 ((List.isPrefixOf_iff_prefix.1 hlong).trans hprefix)) hdash
    · rw [← hshort]
      exact List.prefix_iff_eq_take.1 hprefix

theorem takeWhile_of_regular {name : Text} (hname : Regular name) :
    name.toList.takeWhile (· != .char '=') = name.toList := by
  rw [List.takeWhile_eq_self_iff]
  intro c hc
  rw [bne_iff_ne]
  rintro rfl
  exact hname.1 hc

section

variable {table : List (Text × Flag α)} (regular : ∀ entry ∈ table, Regular entry.1)

include regular

/-- A word that may be no name is none, and none with something attached. -/
theorem lookup_of_not_mayName (h : ∀ name ∈ table.map Prod.fst, ¬ MayName word.toList name) :
    table.lookup word = none ∧ table.lookup (Text.ofList (word.toList.takeWhile (· != .char '='))) = none := by
  simp only [List.lookup_eq_none_iff, bne_iff_ne]
  refine ⟨fun entry hentry heq => ?_, fun entry hentry heq => ?_⟩
  · subst heq
    exact h entry.1 (List.mem_map_of_mem hentry)
      (mayName_of_takeWhile (regular entry hentry) (takeWhile_of_regular (regular entry hentry)))
  · refine h entry.1 (List.mem_map_of_mem hentry) (mayName_of_takeWhile (regular entry hentry) ?_)
    rw [← heq, Text.toList_ofList]

/-- A word with a dash that may be no name is an operand if it is a number or holds a space. -/
theorem classify_of_not_mayName (hdash : word.toList.head? = some (.char '-')) (hlength : 2 ≤ word.toList.length)
    (h : ∀ name ∈ table.map Prod.fst, ¬ MayName word.toList name) :
    classify table word =
      .ok (if isNegativeNumber word.toList = true ∨ .char ' ' ∈ word.toList then .operand word else .unknown word) := by
  have hreadings := (readings_eq_nil_iff regular hlength).2 h
  obtain ⟨hlookup, hbefore⟩ := lookup_of_not_mayName regular h
  have hlength' : word.toList.length ≠ 1 := by omega
  rw [classify]
  simp only [hdash, hlookup, hbefore, hreadings, hlength', ne_eq, not_true_eq_false, if_false,
    Bool.or_eq_true, List.contains_iff_mem]
  split <;> rfl

/-- A dash alone is no option. -/
theorem classify_dash : classify table "-" = .ok (.operand "-") := by
  have hlookup : table.lookup ("-" : Text) = none := by
    rw [List.lookup_eq_none_iff]
    intro entry hentry
    rw [bne_iff_ne]
    intro heq
    have hregular := (regular entry hentry).2
    rw [← heq] at hregular
    exact absurd hregular (by decide)
  rw [classify]
  simp only [hlookup]
  rfl

/-- **A word that stands alone is an operand.** -/
theorem classify_of_standsAlone (h : StandsAlone (table.map Prod.fst) word) :
    classify table word = .ok (.operand word) := by
  by_cases hdash : word.toList.head? = some (.char '-')
  · rcases h with h | rfl | ⟨hvalue, hnone⟩
    · exact absurd hdash h
    · exact classify_dash regular
    by_cases hlength : 2 ≤ word.toList.length
    · rw [classify_of_not_mayName regular hdash hlength hnone, if_pos hvalue]
    · rw [eq_dash hdash hlength]
      exact classify_dash regular
  · exact classify_operand table hdash

/-- **And any other word is none.** -/
theorem operand?_of_classify (h : ¬ StandsAlone (table.map Prod.fst) word) {told : Word α}
    (hclass : classify table word = .ok told) : told.operand? = none := by
  rw [StandsAlone, not_or, not_or, not_not, not_and] at h
  obtain ⟨hdash, hword, hnamed⟩ := h
  have hlength : 2 ≤ word.toList.length := by
    by_contra hlength
    exact hword (eq_dash hdash hlength)
  by_cases hnone : ∀ name ∈ table.map Prod.fst, ¬ MayName word.toList name
  · rw [classify_of_not_mayName regular hdash hlength hnone, if_neg fun hvalue => hnamed hvalue hnone] at hclass
    cases hclass
    rfl
  · have hreadings := (readings_eq_nil_iff regular hlength).not.2 hnone
    have hlength' : word.toList.length ≠ 1 := by omega
    rw [classify] at hclass
    simp only [hdash, hlength', ne_eq, not_true_eq_false, if_false] at hclass
    split at hclass
    · cases hclass
      rfl
    · split at hclass
      · cases hclass
        rfl
      · split at hclass
        · rename_i reading hread
          cases hclass
          exact operand?_readings _ (hread ▸ List.mem_cons_self)
        · rename_i hnil
          exact absurd hnil hreadings
        · cases hclass

/-- A word that may be one name at most can be told. -/
theorem exists_classify (hlength : 2 ≤ word.toList.length)
    (h : ((table.map Prod.fst).filter (MayName word.toList ·)).length ≤ 1) :
    ∃ told, classify table word = .ok told := by
  rw [← names_readings regular hlength, List.length_map] at h
  rw [classify]
  split
  · exact ⟨_, rfl⟩
  split
  · exact ⟨_, rfl⟩
  split
  · exact ⟨_, rfl⟩
  split
  · exact ⟨_, rfl⟩
  split
  · exact ⟨_, rfl⟩
  · split <;> exact ⟨_, rfl⟩
  · rename_i hone hnone
    match hread : readings table word.toList, h with
    | [], _ => exact absurd hread hnone
    | [(name, reading)], _ => exact absurd hread (hone name reading)

end

end

/-! ## Values of the command -/

/-- The word is a value, and no option of the command. -/
def IsValue (word : Text) : Prop := StandsAlone (optionNames resolveFlags) word

instance (word : Text) : Decidable (IsValue word) := inferInstanceAs (Decidable (StandsAlone _ _))

namespace IsValue

variable {word : Text}

theorem of_no_dash (h : word.toList.head? ≠ some (.char '-')) : IsValue word := .inl h

theorem ne_separator (h : IsValue word) : word ≠ "--" := by
  rintro rfl
  exact absurd h (by decide)

theorem regular_resolve : ∀ entry ∈ nameTable resolveFlags, Regular entry.1 := by decide

theorem regular_program : ∀ entry ∈ nameTable programFlags, Regular entry.1 := by decide

theorem classify_eq (h : IsValue word) : classify (nameTable resolveFlags) word = .ok (.operand word) :=
  classify_of_standsAlone regular_resolve (map_nameTable ▸ h)

/-- The program can tell it as well. -/
theorem classify_program (h : IsValue word) : ∃ told, classify (nameTable programFlags) word = .ok told := by
  by_cases hdash : word.toList.head? = some (.char '-')
  · by_cases hlength : 2 ≤ word.toList.length
    · refine exists_classify regular_program hlength ?_
      rcases h with h | rfl | ⟨-, hnone⟩
      · exact absurd hdash h
      · exact absurd hlength (by decide)
      -- Two of its three names are names of the command as well.
      have hshort := hnone "-h" (by decide)
      have hlong := hnone "--help" (by decide)
      have hnames : (nameTable programFlags).map Prod.fst = [("-h" : Text), "--help", "--log-level"] := rfl
      rw [hnames, List.filter_cons_of_neg (by simpa using hshort), List.filter_cons_of_neg (by simpa using hlong)]
      exact List.length_filter_le _ _
    · rw [eq_dash hdash hlength]
      exact ⟨_, classify_dash regular_program⟩
  · exact ⟨_, classify_operand _ hdash⟩

end IsValue

theorem operand?_of_not_isValue {word : Text} (h : ¬ IsValue word) {told : Word ResolveOption}
    (hclass : classify (nameTable resolveFlags) word = .ok told) : told.operand? = none :=
  operand?_of_classify IsValue.regular_resolve (map_nameTable ▸ h) hclass

end BuildProfiles.CommandLine
