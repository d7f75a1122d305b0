/-
Properties are read back from the texts that define them.

`Defines` says which property a text defines, and with which value. Of several
texts that define one property the last counts (`get?_parse_eq_some_iff`). So what
further texts define is written over what the first ones did, in the order of the
names as well (`parse_append`), and properties come back from whatever texts write
them, one for each (`parse_writes`).
-/
import BuildProfiles.CommandLine.Selection
import Mathlib.Data.List.Forall2
import Mathlib.Data.List.TakeWhile

namespace BuildProfiles

open Text

/-! ## One text -/

/-- The text defines the property of that name with that value. The name is what
stands before the first `=`, the blanks around it not counted, and all that stands
behind is the value. -/
inductive Defines (text name : Text) : Text → Prop
  | valued {value written} : text.toList = written ++ .char '=' :: value.toList → .char '=' ∉ written →
      trim written = name.toList → Defines text name value
  | bare : .char '=' ∉ text.toList → trim text.toList = name.toList → Defines text name "true"

section

variable {text name value : Text}

theorem ne_sign_of_notMem {written : List CodePoint} (h : .char '=' ∉ written) : ∀ c ∈ written, (c != .char '=') = true := by
  intro c hc
  rw [bne_iff_ne]
  rintro rfl
  exact h hc

theorem definition_of_valued {written rest : List CodePoint} (htext : text.toList = written ++ .char '=' :: rest)
    (h : .char '=' ∉ written) : definition text = (Text.ofList (trim written), Text.ofList rest) := by
  have hname := ne_sign_of_notMem h
  rw [definition, htext, List.takeWhile_append_of_pos hname, List.dropWhile_append_of_pos hname]
  simp

theorem definition_of_bare (h : .char '=' ∉ text.toList) :
    definition text = (Text.ofList (trim text.toList), Text.ofString "true") := by
  have hname := ne_sign_of_notMem h
  rw [definition, List.takeWhile_eq_self_iff.2 hname, List.dropWhile_eq_nil_iff.2 hname]

/-- Every text defines one property. -/
theorem defines_iff : Defines text name value ↔ definition text = (name, value) := by
  constructor
  · intro h
    cases h with
    | valued htext hwritten hname =>
      rw [definition_of_valued htext hwritten, hname, Text.ofList_toList, Text.ofList_toList]
    | bare htext hname => rw [definition_of_bare htext, hname, Text.ofList_toList]
  · intro h
    by_cases hsign : .char '=' ∈ text.toList
    · obtain ⟨written, rest, htext, hwritten⟩ := List.eq_append_cons_of_mem hsign
      rw [definition_of_valued htext hwritten] at h
      obtain ⟨rfl, rfl⟩ := Prod.mk.inj h
      exact .valued htext hwritten rfl
    · rw [definition_of_bare hsign] at h
      obtain ⟨rfl, rfl⟩ := Prod.mk.inj h
      exact .bare hsign rfl

end

namespace Properties

/-! ## The last definition -/

section

variable {texts : List Text} {name value : Text}

theorem get?_parse (texts : List Text) (name : Text) :
    (parse texts).get? name = (texts.map definition).reverse.lookup name := by
  rw [parse, ofList, get?_insertMany, get?_empty, Option.or_none]

/-- **The last text that defines a property gives its value.** -/
theorem get?_parse_eq_some_iff :
    (parse texts).get? name = some value ↔ ∃ before text after, texts = before ++ text :: after ∧
      Defines text name value ∧ ∀ other ∈ after, ∀ hidden, ¬ Defines other name hidden := by
  rw [get?_parse, List.lookup_eq_some_iff]
  constructor
  · rintro ⟨behind, front, hsplit, hbehind⟩
    have hmap : texts.map definition = front.reverse ++ (name, value) :: behind.reverse := by
      rw [← List.reverse_reverse (texts.map definition), hsplit]
      simp
    obtain ⟨before, rest, rfl, -, hrest⟩ := List.map_eq_append_iff.1 hmap
    obtain ⟨text, after, rfl, htext, hafter⟩ := List.map_eq_cons_iff.1 hrest
    refine ⟨before, text, after, rfl, defines_iff.2 htext, fun other hother hidden hdefines => ?_⟩
    have hmem : definition other ∈ behind := by
      rw [← List.mem_reverse, ← hafter]
      exact List.mem_map_of_mem hother
    have hname := hbehind _ hmem
    rw [defines_iff.1 hdefines] at hname
    simp at hname
  · rintro ⟨before, text, after, rfl, htext, hafter⟩
    refine ⟨(after.map definition).reverse, (before.map definition).reverse, ?_, fun entry hentry => ?_⟩
    · simp [defines_iff.1 htext]
    · obtain ⟨other, hother, rfl⟩ := List.mem_map.1 (List.mem_reverse.1 hentry)
      rw [bne_iff_ne]
      rintro rfl
      exact hafter other hother _ (defines_iff.2 rfl)

theorem isSome_get?_parse_iff :
    ((parse texts).get? name).isSome = true ↔ ∃ text ∈ texts, ∃ value, Defines text name value := by
  rw [get?_parse, List.lookup_isSome_iff]
  simp only [List.mem_reverse, List.mem_map, exists_exists_and_eq_and, beq_iff_eq, defines_iff]
  refine exists_congr fun text => and_congr_right fun _ => ⟨?_, ?_⟩
  · rintro rfl
    exact ⟨_, rfl⟩
  · rintro ⟨value, h⟩
    rw [h]

end

/-! ## Writing over -/

section

variable {entries : List (Text × Text)} {name other value hidden : Text}

theorem set_set : set name value (set name hidden entries) = set name value entries := by
  induction entries with
  | nil => simp [set]
  | cons entry entries ih =>
    by_cases h : entry.1 = name
    · simp [set, h]
    · simp [set, h, ih]

/-- Names that are there keep their places, so it does not matter which is set first. -/
theorem set_comm (hne : other ≠ name) (hmem : name ∈ entries.map Prod.fst) :
    set name value (set other hidden entries) = set other hidden (set name value entries) := by
  induction entries with
  | nil => cases hmem
  | cons entry entries ih =>
    by_cases hname : entry.1 = name
    · have hother : entry.1 ≠ other := fun h => hne (h.symm.trans hname)
      simp [set, hname, hne.symm]
    · have hrest : name ∈ entries.map Prod.fst := by
        rw [List.map_cons, List.mem_cons] at hmem
        exact hmem.resolve_left (Ne.symm hname)
      by_cases hother : entry.1 = other
      · simp [set, hother, hne]
      · simp [set, hname, hother, ih hrest]

theorem set_of_notMem (h : name ∉ entries.map Prod.fst) :
    set name value entries = entries ++ [(name, value)] := by
  induction entries with
  | nil => rfl
  | cons entry entries ih =>
    rw [List.map_cons, List.mem_cons, not_or] at h
    rw [set, if_neg (Ne.symm h.1), ih h.2]
    rfl

end

section

variable {p q : Properties} {entries : List (Text × Text)} {name value : Text}

@[ext]
theorem ext {p q : Properties} (h : p.entries = q.entries) : p = q := by
  cases p
  cases q
  cases h
  rfl

theorem insertMany_cons (p : Properties) (entry : Text × Text) (entries : List (Text × Text)) :
    p.insertMany (entry :: entries) = (p.insert entry.1 entry.2).insertMany entries := rfl

theorem insertMany_append (p : Properties) (xs ys : List (Text × Text)) :
    p.insertMany (xs ++ ys) = (p.insertMany xs).insertMany ys := List.foldl_append

/-- A name that is there can be set before others are, where these do not set it. -/
theorem insert_insertMany (hmem : name ∈ p.entries.map Prod.fst) (h : name ∉ entries.map Prod.fst) :
    (p.insertMany entries).insert name value = (p.insert name value).insertMany entries := by
  induction entries generalizing p with
  | nil => rfl
  | cons entry entries ih =>
    rw [List.map_cons, List.mem_cons, not_or] at h
    have hswap : (p.insert entry.1 entry.2).insert name value = (p.insert name value).insert entry.1 entry.2 :=
      ext (set_comm (Ne.symm h.1) hmem)
    rw [insertMany_cons, insertMany_cons, ih (mem_names_set.2 (.inr hmem)) h.2, hswap]

theorem insertMany_set (distinct : (entries.map Prod.fst).Nodup) :
    p.insertMany (set name value entries) = (p.insertMany entries).insert name value := by
  induction entries generalizing p with
  | nil => rfl
  | cons entry entries ih =>
    rw [List.map_cons, List.nodup_cons] at distinct
    rw [set]
    split
    · rename_i hname
      subst hname
      have htwice : (p.insert entry.1 entry.2).insert entry.1 value = p.insert entry.1 value := ext set_set
      rw [insertMany_cons, insertMany_cons, insert_insertMany (mem_names_set.2 (.inl rfl)) distinct.1, htwice]
    · rw [insertMany_cons, insertMany_cons, ih distinct.2]

theorem update_insertMany : p.update (q.insertMany entries) = (p.update q).insertMany entries := by
  induction entries generalizing q with
  | nil => rfl
  | cons entry entries ih =>
    have hentry : p.update (q.insert entry.1 entry.2) = (p.update q).insert entry.1 entry.2 :=
      insertMany_set q.distinct
    rw [insertMany_cons, ih, hentry, insertMany_cons]

/-- Entries of distinct names are kept as they are. -/
theorem entries_insertMany (distinct : (p.entries.map Prod.fst ++ entries.map Prod.fst).Nodup) :
    (p.insertMany entries).entries = p.entries ++ entries := by
  induction entries generalizing p with
  | nil => exact (List.append_nil _).symm
  | cons entry entries ih =>
    have hfresh : entry.1 ∉ p.entries.map Prod.fst := by
      rw [List.nodup_append] at distinct
      exact fun hmem => distinct.2.2 entry.1 hmem entry.1 (by simp) rfl
    have hentries : (p.insert entry.1 entry.2).entries = p.entries ++ [entry] := set_of_notMem hfresh
    rw [insertMany_cons, ih (by simpa [hentries] using distinct), hentries, List.append_assoc]
    rfl

theorem entries_ofList (distinct : (entries.map Prod.fst).Nodup) : (ofList entries).entries = entries :=
  entries_insertMany (p := empty) distinct

end

/-- **What further texts define is written over what the first ones did.** -/
theorem parse_append (xs ys : List Text) : parse (xs ++ ys) = (parse xs).update (parse ys) := by
  rw [parse, parse, parse, List.map_append, ofList, ofList, ofList, insertMany_append, update_insertMany]
  rfl

/-! ## Texts that write properties -/


/-- The text writes the entry, with blanks around the name or without. -/
def Writes (entry : Text × Text) (text : Text) : Prop :=
  ∃ left right, Blank left ∧ Blank right ∧
    text.toList = left ++ entry.1.toList ++ right ++ .char '=' :: entry.2.toList


theorem Writes.defines {entry : Text × Text} {text : Text} (h : Writes entry text)
    (hname : Writable '=' entry.1.toList) : Defines text entry.1 entry.2 := by
  obtain ⟨left, right, hleft, hright, htext⟩ := h
  refine .valued htext ?_ (trim_padded hleft hname.trimmed hright)
  have hblank : isBlank '=' = false := by decide
  simp [hleft.notMem hblank, hright.notMem hblank, hname.whole]

theorem parse_writes {entries : List (Text × Text)} {texts : List Text}
    (distinct : (entries.map Prod.fst).Nodup) (hnames : ∀ entry ∈ entries, Writable '=' entry.1.toList)
    (h : List.Forall₂ Writes entries texts) : (parse texts).entries = entries := by
  have hmap : texts.map definition = entries := by
    induction h with
    | nil => rfl
    | cons hwrites _ ih =>
      obtain ⟨hname, hrest⟩ := List.forall_mem_cons.1 hnames
      rw [List.map_cons, List.nodup_cons] at distinct
      rw [List.map_cons, defines_iff.1 (hwrites.defines hname), ih distinct.2 hrest]
  rw [parse, hmap, entries_ofList distinct]

/-- **The last definition of a property counts**, with all behind its first `=` as
the value. So texts behind others are written over them, and properties come back
from texts that write them, in whatever order these stand. -/
theorem parse_last_counts :
    (∀ (texts : List Text) (name : Text),
      ((parse texts).get? name).isSome = true ↔ ∃ text ∈ texts, ∃ value, Defines text name value) ∧
    (∀ (texts : List Text) (name value : Text),
      (parse texts).get? name = some value ↔ ∃ before text after, texts = before ++ text :: after ∧
        Defines text name value ∧ ∀ other ∈ after, ∀ hidden, ¬ Defines other name hidden) ∧
    (∀ xs ys : List Text, parse (xs ++ ys) = (parse xs).update (parse ys)) ∧
    ∀ (properties : Properties) (entries : List (Text × Text)) (texts : List Text),
      (∀ entry ∈ properties.entries, Writable '=' entry.1.toList) → entries.Perm properties.entries →
      List.Forall₂ Writes entries texts →
      (parse texts).entries = entries ∧ (parse texts).get? = properties.get? := by
  refine ⟨fun texts name => isSome_get?_parse_iff, fun texts name value => get?_parse_eq_some_iff,
    parse_append, fun properties entries texts hnames hperm hwrites => ?_⟩
  have distinct : (entries.map Prod.fst).Nodup := (hperm.map Prod.fst).nodup_iff.2 properties.distinct
  have hentries : (parse texts).entries = entries :=
    parse_writes distinct (fun entry hentry => hnames entry (hperm.mem_iff.1 hentry)) hwrites
  refine ⟨hentries, funext fun name => Option.ext fun value => ?_⟩
  rw [get?_eq_some_iff, get?_eq_some_iff, hentries, hperm.mem_iff]

/-- An empty name, a name with a blank inside, and a value with blanks and a sign
come back. A text that names one of them alone sets it to `true` again. -/
theorem parse_last_counts_respelled :
    let properties : Properties := .ofList [("env", " a=b "), ("", "x"), ("a b", "")]
    let entries : List (Text × Text) := [("a b", ""), ("env", " a=b "), ("", "x")]
    let texts : List Text := ["a b\t=", "\n env\u3000= a=b ", " =x"]
    ((∀ entry ∈ properties.entries, Writable '=' entry.1.toList) ∧ entries.Perm properties.entries ∧
        List.Forall₂ Writes entries texts) ∧
      (parse texts).entries = entries ∧ (parse texts).get? = properties.get? ∧
      (parse (texts ++ [("env=ci" : Text), "env "])).get? "env" = some ("true" : Text) := by
  intro properties entries texts
  have hnames : ∀ entry ∈ properties.entries, Writable '=' entry.1.toList := by decide +kernel
  have hperm : entries.Perm properties.entries := by decide +kernel
  have hwrites : List.Forall₂ Writes entries texts :=
    .cons ⟨[], ['\t'], by decide, by decide, by decide⟩ <|
    .cons ⟨['\n', ' '], ['\u3000'], by decide, by decide, by decide⟩ <|
    .cons ⟨[' '], [], by decide, by decide, by decide⟩ .nil
  obtain ⟨-, last, -, back⟩ := parse_last_counts
  obtain ⟨hentries, hget⟩ := back properties entries texts hnames hperm hwrites
  refine ⟨⟨hnames, hperm, hwrites⟩, hentries, hget, ?_⟩
  rw [last]
  exact ⟨texts ++ [("env=ci" : Text)], "env ", [], by simp, .bare (by decide) (by decide), by simp⟩

end Properties

end BuildProfiles
