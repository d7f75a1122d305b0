/-
What the words of the command tell it.

The words are read twice: the program looks for its own options up to the name
of the command (`ofWords_resolve`), and the command reads what stands behind
its name. An option that has its value in the same word is read as that option
with that value, whatever the value holds (`classify_attached`); only the value
`--` is lost.
-/
import BuildProfiles.Proofs.Fallible
import BuildProfiles.Proofs.Operands

namespace BuildProfiles.CommandLine

/-- The name of an option that has two dashes. -/
def ResolveOption.longName : ResolveOption → Text
  | .profiles => "--profiles"
  | .selection => "--activate-profiles"
  | .definition => "--define"
  | .projectDirectory => "--project-dir"

/-- An option and its value in one word. -/
def attachedWord (given : ResolveOption × Text) : Text := given.1.longName ++ "=" ++ given.2

/-- The values that an option is given, in order. -/
def valuesOf (option : ResolveOption) (given : List (ResolveOption × Text)) : List Text :=
  (given.filter (·.1 == option)).map (·.2)

/-! ## One word -/

theorem toList_attachedWord (given : ResolveOption × Text) :
    (attachedWord given).toList = given.1.longName.toList ++ .char '=' :: given.2.toList := by
  simp [attachedWord]

theorem ne_equals_of_mem_longName {option : ResolveOption} :
    ∀ c ∈ option.longName.toList, (c != '=') = true :=
  List.all_eq_true.1 (by cases option <;> rfl)

theorem takeWhile_attachedWord (given : ResolveOption × Text) :
    (attachedWord given).toList.takeWhile (· != .char '=') = given.1.longName.toList := by
  rw [toList_attachedWord, List.takeWhile_append_of_pos ne_equals_of_mem_longName]
  simp

theorem dropWhile_attachedWord (given : ResolveOption × Text) :
    (attachedWord given).toList.dropWhile (· != .char '=') = .char '=' :: given.2.toList := by
  rw [toList_attachedWord, List.dropWhile_append_of_pos ne_equals_of_mem_longName]
  simp

theorem opens_attachedWord (given : ResolveOption × Text) :
    ∃ c rest, (attachedWord given).toList = .char '-' :: .char '-' :: c :: rest := by
  rw [toList_attachedWord]
  cases given.1 <;> exact ⟨_, _, rfl⟩

theorem head?_attachedWord (given : ResolveOption × Text) :
    (attachedWord given).toList.head? = some (.char '-') := by
  obtain ⟨c, rest, hopens⟩ := opens_attachedWord given
  rw [hopens]
  rfl

theorem length_attachedWord_ne (given : ResolveOption × Text) :
    (attachedWord given).toList.length ≠ 1 := by
  obtain ⟨c, rest, hopens⟩ := opens_attachedWord given
  simp [hopens]

/-- No name of an option has a sign of equality. -/
def Unsigned {α : Type} (table : List (Text × Flag α)) : Prop := ∀ entry ∈ table, .char '=' ∉ entry.1.toList

theorem lookup_attachedWord {α : Type} {table : List (Text × Flag α)} (h : Unsigned table)
    (given : ResolveOption × Text) : table.lookup (attachedWord given) = none := by
  rw [List.lookup_eq_none_iff]
  intro entry hentry
  rw [bne_iff_ne]
  intro heq
  apply h entry hentry
  rw [← heq, toList_attachedWord]
  simp

theorem classify_of_known {α : Type} {table : List (Text × Flag α)} (h : Unsigned table)
    {given : ResolveOption × Text} {flag : Flag α} (hflag : table.lookup given.1.longName = some flag) :
    classify table (attachedWord given) = .ok (.option flag given.1.longName (some given.2)) := by
  rw [classify]
  simp only [head?_attachedWord, lookup_attachedWord h, length_attachedWord_ne, takeWhile_attachedWord,
    dropWhile_attachedWord, Text.ofList_toList, hflag, ne_eq, not_true_eq_false, if_false]

theorem classify_of_unread {α : Type} {table : List (Text × Flag α)} (h : Unsigned table)
    {given : ResolveOption × Text} (hlookup : table.lookup given.1.longName = none)
    (hreadings : readings table (attachedWord given).toList = []) :
    ∃ word, classify table (attachedWord given) = .ok word := by
  rw [classify]
  simp only [head?_attachedWord, lookup_attachedWord h, length_attachedWord_ne, takeWhile_attachedWord,
    dropWhile_attachedWord, Text.ofList_toList, hlookup, hreadings, ne_eq, not_true_eq_false, if_false]
  split <;> exact ⟨_, rfl⟩

theorem classify_attached (given : ResolveOption × Text) :
    ∃ flag : Flag ResolveOption, flag.key = some given.1 ∧
      classify (nameTable resolveFlags) (attachedWord given) =
        .ok (.option flag given.1.longName (some given.2)) := by
  have hunsigned : Unsigned (nameTable resolveFlags) := by unfold Unsigned; decide
  have hflag : ∃ flag, (nameTable resolveFlags).lookup given.1.longName = some flag ∧
      flag.key = some given.1 := by
    cases given.1 <;> exact ⟨_, rfl, rfl⟩
  obtain ⟨flag, hlookup, hkey⟩ := hflag
  exact ⟨flag, hkey, classify_of_known hunsigned hlookup⟩

/-- The options of the command are none of the program's own, not even shortened. -/
theorem classify_program (given : ResolveOption × Text) :
    ∃ word, classify (nameTable programFlags) (attachedWord given) = .ok word := by
  have hunsigned : Unsigned (nameTable programFlags) := by unfold Unsigned; decide
  refine classify_of_unread hunsigned ?_ ?_
  · cases given.1 <;> rfl
  · obtain ⟨c, rest, hopens⟩ := opens_attachedWord given
    have hdashes : dashes.isPrefixOf (attachedWord given).toList = true := by rw [hopens]; rfl
    rw [readings]
    simp only [hdashes, takeWhile_attachedWord, if_true]
    cases given.1 <;> rfl

theorem attachedWord_ne (given : ResolveOption × Text) : attachedWord given ≠ "--" := by
  obtain ⟨c, rest, hopens⟩ := opens_attachedWord given
  intro h
  rw [h] at hopens
  cases hopens

/-! ## All words -/

/-- The words can be told apart, so that none of them stops the program. -/
def Told {α : Type} (table : List (Text × Flag α)) (words : List Text) : Prop :=
  ∀ word ∈ words, word ≠ "--" ∧ ∃ told, classify table word = .ok told

theorem classifyAll_of_told {α : Type} {table : List (Text × Flag α)} {words : List Text}
    (h : Told table words) : ∃ told, classifyAll table words = .ok told := by
  induction words with
  | nil => exact ⟨[], rfl⟩
  | cons word words ih =>
    obtain ⟨hword, first, hfirst⟩ := h word List.mem_cons_self
    obtain ⟨rest, hrest⟩ := ih fun other hother => h other (List.mem_cons_of_mem word hother)
    refine ⟨first :: rest, ?_⟩
    rw [classifyAll, if_neg hword, hfirst, hrest]
    rfl

theorem length_classifyAll {α : Type} {table : List (Text × Flag α)} {words : List Text}
    {told : List (Word α)} (h : classifyAll table words = .ok told) : told.length = words.length := by
  induction words generalizing told with
  | nil =>
    cases h
    rfl
  | cons word words ih =>
    rw [classifyAll] at h
    split at h
    · cases h
      simp
    · obtain ⟨first, -, h⟩ := bind_eq_ok_iff.1 h
      obtain ⟨rest, hrest, h⟩ := bind_eq_ok_iff.1 h
      cases h
      rw [List.length_cons, List.length_cons, ih hrest]

/-- Behind the name of the command, the program leaves all words to the command. -/
theorem ofWords_of_classified {own : List Text} {told : List (Word ProgramOption)}
    (h : classifyAll (nameTable programFlags) own = .ok told) :
    Invocation.ofWords (resolveName :: own) =
      match readFlags resolveFlags false own with
      | .error halt => halt.invocation .resolve
      | .ok reading => refuseExtras reading.extras (.resolve none (.ofReading reading)) := by
  have hname : classify (nameTable programFlags) resolveName = .ok (.operand resolveName) := rfl
  have hread : readFlags programFlags true (resolveName :: own) = .ok ⟨[], [], .operand resolveName :: told⟩ := by
    rw [readFlags, classifyAll, if_neg (by decide), hname, h]
    simp only [bind, Except.bind, pure, Except.pure]
    rw [readWords]
    rfl
  have hcommand : commandWords (resolveName :: own) (told.length + 1) = resolveName :: own := by
    rw [commandWords, List.length_cons, length_classifyAll h, Nat.sub_self, List.drop_zero]
  rw [Invocation.ofWords, hread]
  simp only [List.length_cons, hcommand]
  rfl

theorem ofWords_resolve {own : List Text} (h : Told (nameTable programFlags) own) :
    Invocation.ofWords (resolveName :: own) =
      match readFlags resolveFlags false own with
      | .error halt => halt.invocation .resolve
      | .ok reading => refuseExtras reading.extras (.resolve none (.ofReading reading)) := by
  obtain ⟨told, htold⟩ := classifyAll_of_told h
  exact ofWords_of_classified htold

/-- An option that is read leaves the rest to be read as if nothing stood before it. -/
theorem readWords_option {α : Type} {table : List (Text × Flag α)} {stopAtOperand : Bool} {flag : Flag α}
    {name : Text} {attached : Option Text} {words rest : List (Word α)} {given : Given α}
    (hoption : readOption table flag name attached words = .ok (given, rest)) :
    readWords table stopAtOperand (.option flag name attached :: words) =
      (readWords table stopAtOperand rest).map fun reading =>
        { reading with given := given :: reading.given } := by
  rw [readWords]
  split
  · rename_i halt herror
    rw [hoption] at herror
    cases herror
  · rename_i given' rest' hok
    rw [hoption] at hok
    cases hok
    cases readWords table stopAtOperand rest <;> rfl

/-- What the options are given, where the value `--` is lost. -/
def kept (given : List (ResolveOption × Text)) : List (Given ResolveOption) :=
  given.map fun entry => (entry.1, attachedValue entry.2)

theorem readWords_attached (given : List (ResolveOption × Text)) :
    ∃ words, classifyAll (nameTable resolveFlags) (given.map attachedWord) = .ok words ∧
      readWords (nameTable resolveFlags) false words = .ok ⟨kept given, [], []⟩ := by
  induction given with
  | nil =>
    refine ⟨[], rfl, ?_⟩
    rw [readWords]
    rfl
  | cons entry given ih =>
    obtain ⟨words, hwords, hread⟩ := ih
    obtain ⟨flag, hkey, hclass⟩ := classify_attached entry
    refine ⟨.option flag entry.1.longName (some entry.2) :: words, ?_, ?_⟩
    · rw [List.map_cons, classifyAll, if_neg (attachedWord_ne entry), hclass, hwords]
      rfl
    · have hoption : readOption (nameTable resolveFlags) flag entry.1.longName (some entry.2) words =
          .ok ((entry.1, attachedValue entry.2), words) := by
        simp only [readOption, hkey]
      rw [readWords_option hoption, hread]
      rfl

theorem readFlags_attached (given : List (ResolveOption × Text)) :
    readFlags resolveFlags false (given.map attachedWord) = .ok ⟨kept given, [], []⟩ := by
  obtain ⟨words, hwords, hread⟩ := readWords_attached given
  rw [readFlags]
  simp only [hwords, hread]

/-- The word is the name of an option that takes a value. -/
structure Takes (name : Text) (flag : Flag ResolveOption) (key : ResolveOption) : Prop where
  told : classify (nameTable resolveFlags) name = .ok (.option flag name none)
  takes : flag.key = some key
  ne_separator : name ≠ "--"

/-- An option with a value behind it is read with that value, and the rest as if
nothing stood before it. -/
theorem readFlags_detached {name value : Text} {flag : Flag ResolveOption} {key : ResolveOption}
    (hname : Takes name flag key) (hvalue : IsValue value) (own : List Text) :
    readFlags resolveFlags false (name :: value :: own) =
      (readFlags resolveFlags false own).map fun reading =>
        { reading with given := (key, some value) :: reading.given } := by
  rw [readFlags, readFlags, classifyAll, if_neg hname.ne_separator, classifyAll, if_neg hvalue.ne_separator,
    hname.told, hvalue.classify_eq]
  cases hown : classifyAll (nameTable resolveFlags) own with
  | error misuse => rfl
  | ok words =>
    have hoption : readOption (nameTable resolveFlags) flag name none (.operand value :: words) =
        .ok ((key, some value), words) := by
      simp only [readOption, readDetached, hname.takes]
    exact readWords_option hoption

theorem takes_profiles : Takes "--profiles" ⟨["--profiles"], some .profiles⟩ .profiles :=
  ⟨rfl, rfl, by decide⟩

/-- The command reads the file and every option with its value. -/
theorem readFlags_file {file : Text} (h : IsValue file) (given : List (ResolveOption × Text)) :
    readFlags resolveFlags false ("--profiles" :: file :: given.map attachedWord) =
      .ok ⟨(.profiles, some file) :: kept given, [], []⟩ := by
  rw [readFlags_detached takes_profiles h, readFlags_attached]
  rfl

theorem told_file {file : Text} (h : IsValue file) (given : List (ResolveOption × Text)) :
    Told (nameTable programFlags) ("--profiles" :: file :: given.map attachedWord) := by
  intro word hword
  rcases List.mem_cons.1 hword with rfl | hword
  · exact ⟨by decide, .unknown "--profiles", rfl⟩
  rcases List.mem_cons.1 hword with rfl | hword
  · exact ⟨h.ne_separator, h.classify_program⟩
  obtain ⟨entry, -, rfl⟩ := List.mem_map.1 hword
  exact ⟨attachedWord_ne entry, classify_program entry⟩

theorem all_given (option : ResolveOption) (h : option ≠ .profiles) (file : Text)
    (given : List (ResolveOption × Text)) :
    Reading.all ⟨(.profiles, some file) :: kept given, [], []⟩ option =
      (valuesOf option given).map attachedValue := by
  have hfirst : (ResolveOption.profiles == option) = false := beq_eq_false_iff_ne.2 h.symm
  simp [Reading.all, kept, valuesOf, hfirst, List.filter_map, Function.comp_def]

theorem lookup_reverse_kept {option : ResolveOption} {given : List (ResolveOption × Text)}
    (h : ∀ entry ∈ given, entry.1 ≠ option) : (kept given).reverse.lookup option = none := by
  rw [List.lookup_eq_none_iff]
  intro entry hentry
  obtain ⟨original, horiginal, rfl⟩ := List.mem_map.1 (List.mem_reverse.1 hentry)
  exact bne_iff_ne.2 (h original horiginal).symm

/-- What the command is told of a file and of selections and definitions. -/
def argumentsOf (file : Text) (given : List (ResolveOption × Text)) : ResolveArguments where
  profiles := some file
  selections := (valuesOf .selection given).map attachedValue
  definitions := (valuesOf .definition given).map attachedValue
  projectDirectory := none

/-- **The words of the command tell it the file and, in order, what each option
is given.** The value `--` alone is lost. -/
theorem ofWords_file {file : Text} (h : IsValue file)
    {given : List (ResolveOption × Text)}
    (hgiven : ∀ entry ∈ given, entry.1 = .selection ∨ entry.1 = .definition) :
    Invocation.ofWords (resolveName :: "--profiles" :: file :: given.map attachedWord) =
      .resolve none (argumentsOf file given) := by
  have hprofiles : (kept given).reverse.lookup .profiles = none :=
    lookup_reverse_kept fun entry hentry => by rcases hgiven entry hentry with h | h <;> rw [h] <;> decide
  have hdirectory : (kept given).reverse.lookup .projectDirectory = none :=
    lookup_reverse_kept fun entry hentry => by rcases hgiven entry hentry with h | h <;> rw [h] <;> decide
  rw [ofWords_resolve (told_file h given), readFlags_file h]
  have hother : (ResolveOption.projectDirectory == ResolveOption.profiles) = false := rfl
  simp only [refuseExtras, List.isEmpty_nil, if_true, ResolveArguments.ofReading,
    all_given .selection (by decide), all_given .definition (by decide), argumentsOf]
  simp [Reading.last?, List.lookup_append, hprofiles, hdirectory, List.lookup_cons, hother]

end BuildProfiles.CommandLine
