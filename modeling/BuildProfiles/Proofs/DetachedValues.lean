/-
The two spellings of an option and its value.

A value stands in the same word as its option, or in the word behind it. In the
same word it is read as it is (`CommandWords`). Behind its option it is read only
if it stands alone there (`readFlags_detached`, `readFlags_of_unread`), so a
selection that opens with a deselected id behind a dash is lost, and the command
line with it (`run_detached_selection`).
-/
import BuildProfiles.Proofs.CommandRun

namespace BuildProfiles.CommandLine

/-! ## A value behind its option -/

section

variable {name value word : Text} {flag : Flag ResolveOption} {key : ResolveOption} {own : List Text}

/-- A word that is no value is not told to be an operand, and neither is a separator. -/
theorem head_of_not_isValue (hword : ¬ IsValue word) {words : List (Word ResolveOption)}
    (h : classifyAll (nameTable resolveFlags) (word :: own) = .ok words) :
    ∃ first rest, words = first :: rest ∧ first.operand? = none := by
  rw [classifyAll] at h
  split at h
  · cases h
    exact ⟨.separator, _, rfl, rfl⟩
  · obtain ⟨first, hfirst, h⟩ := bind_eq_ok_iff.1 h
    obtain ⟨rest, -, h⟩ := bind_eq_ok_iff.1 h
    cases h
    exact ⟨first, rest, rfl, operand?_of_not_isValue hword hfirst⟩

theorem readWords_of_missing {α : Type} {table : List (Text × Flag α)} {stopAtOperand : Bool} {flag : Flag α}
    {name : Text} {attached : Option Text} {words : List (Word α)} {halt : Halt}
    (h : readOption table flag name attached words = .error halt) :
    readWords table stopAtOperand (.option flag name attached :: words) = .error halt := by
  rw [readWords]
  split
  · rename_i halt' herror
    rw [h] at herror
    cases herror
    rfl
  · rename_i hok
    rw [h] at hok
    cases hok

/-- An option with a word behind it that is no value makes the command line a misuse. -/
theorem readFlags_of_unread (hname : Takes name flag key) (hword : ¬ IsValue word) (own : List Text) :
    ∃ misuse, readFlags resolveFlags false (name :: word :: own) = .error (.misuse misuse) := by
  rw [readFlags, classifyAll, if_neg hname.ne_separator, hname.told]
  cases hwords : classifyAll (nameTable resolveFlags) (word :: own) with
  | error misuse => exact ⟨misuse, rfl⟩
  | ok words =>
    obtain ⟨first, rest, rfl, hfirst⟩ := head_of_not_isValue hword hwords
    refine ⟨.valueMissing flag.names, readWords_of_missing ?_⟩
    cases first with
    | operand word => cases hfirst
    | separator | option | unknown => simp only [readOption, readDetached, hname.takes]

end

/-! ## The two spellings of a selection -/

/-- The words of a run that is given a file, and a selection behind its option. -/
def detachedWords (file text : Text) : List Text := [resolveName, "--profiles", file, "-P", text]

/-- The words of a run that is given a file, and a selection in the word of its option. -/
def attachedWords (file text : Text) : List Text :=
  [resolveName, "--profiles", file, "--activate-profiles=" ++ text]

/-- The command line is refused. -/
def Refused (words : List Text) : Prop := ∃ topic misuse, Invocation.ofWords words = .misuse topic misuse

section

variable {validator : Validator} {host : Host} {file text : Text}

theorem attachedWords_eq : attachedWords file text = runWords file [(.selection, text)] := by
  have hname : ResolveOption.selection.longName ++ "=" = "--activate-profiles=" := by decide
  rw [attachedWords, ← hname]
  rfl

theorem takes_selection : Takes "-P" ⟨["-P", "--activate-profiles"], some .selection⟩ .selection :=
  ⟨rfl, rfl, by decide⟩

/-- What the command cannot read is refused, if not by the program before. -/
theorem refused_of_readFlags {own : List Text} {misuse : Misuse}
    (h : readFlags resolveFlags false own = .error (.misuse misuse)) : Refused (resolveName :: own) := by
  cases hown : classifyAll (nameTable programFlags) own with
  | ok told => exact ⟨.resolve, misuse, by rw [ofWords_of_classified hown, h]; rfl⟩
  | error misuse =>
    have hname : classify (nameTable programFlags) resolveName = .ok (.operand resolveName) := rfl
    refine ⟨.program, misuse, ?_⟩
    rw [Invocation.ofWords, readFlags, classifyAll, if_neg (by decide), hname, hown]
    rfl

theorem refused_of_file (h : ¬ IsValue file) (own : List Text) :
    Refused (resolveName :: "--profiles" :: file :: own) := by
  obtain ⟨misuse, hmisuse⟩ := readFlags_of_unread takes_profiles h own
  exact refused_of_readFlags hmisuse

theorem refused_of_selection (hfile : IsValue file) (h : ¬ IsValue text) :
    Refused (detachedWords file text) := by
  obtain ⟨misuse, hmisuse⟩ := readFlags_of_unread takes_selection h []
  have hread : readFlags resolveFlags false ["--profiles", file, "-P", text] = .error (.misuse misuse) := by
    rw [readFlags_detached takes_profiles hfile, hmisuse]
    rfl
  exact refused_of_readFlags hread

/-- Where it stands alone, a selection is read the same in both spellings. -/
theorem ofWords_detached (hfile : IsValue file) (htext : IsValue text) :
    Invocation.ofWords (detachedWords file text) = Invocation.ofWords (attachedWords file text) := by
  have htold : Told (nameTable programFlags) ["--profiles", file, "-P", text] := by
    simp only [Told, List.forall_mem_cons]
    exact ⟨⟨by decide, .unknown "--profiles", rfl⟩, ⟨hfile.ne_separator, hfile.classify_program⟩,
      ⟨by decide, .unknown "-P", rfl⟩, ⟨htext.ne_separator, htext.classify_program⟩, by simp⟩
  have hkept : kept [(.selection, text)] = [(.selection, some text)] := by
    rw [kept, List.map_singleton, attachedValue, if_neg htext.ne_separator]
  have hempty : readFlags resolveFlags false [] = .ok ⟨[], [], []⟩ := readFlags_attached []
  have hread : readFlags resolveFlags false ["--profiles", file, "-P", text] =
      readFlags resolveFlags false ("--profiles" :: file :: [(.selection, text)].map attachedWord) := by
    rw [readFlags_file hfile, hkept, readFlags_detached takes_profiles hfile,
      readFlags_detached takes_selection htext, hempty]
    rfl
  rw [attachedWords_eq, runWords, ofWords_resolve (told_file hfile _), ← hread, detachedWords,
    ofWords_resolve htold]

/-! ## Runs -/

theorem run_of_refused_words {words : List Text} (h : Refused words) :
    (run validator host words).ending = .exit 2 ∧ (run validator host words).output = "" := by
  obtain ⟨topic, misuse, hwords⟩ := h
  rw [run, hwords]
  exact ⟨rfl, rfl⟩

theorem eq_of_texts_error {missing ending : Ending} {values : List (Option Text)}
    (h : texts missing values = .error ending) : ending = missing := by
  unfold texts at h
  split at h
  · cases h
    rfl
  · cases h

/-- Once logging is set up, only for want of a file a run ends with the code 2. -/
theorem file_of_exit_two {settings : Settings} {threshold : Nat} {given : List (ResolveOption × Text)}
    (h : (runResolve validator host settings threshold (argumentsOf file given)).ending = .exit 2) :
    file = "" := by
  by_contra hfile
  simp only [runResolve, profiles_argumentsOf hfile] at h
  split at h
  · cases h
  · cases h
  · cases h
  · split at h
    · rename_i ending hcontext
      rw [context] at hcontext
      rcases bind_eq_error_iff.1 hcontext with hselection | ⟨selections, -, hcontext⟩
      · cases h
        cases eq_of_texts_error hselection
      rcases bind_eq_error_iff.1 hcontext with hdefinition | ⟨definitions, -, hcontext⟩
      · cases h
        cases eq_of_texts_error hdefinition
      · cases hcontext
    · cases h

theorem runResolve_without_file {settings : Settings} {threshold : Nat}
    {given : List (ResolveOption × Text)} :
    runResolve validator host settings threshold (argumentsOf "" given) =
      { ending := .exit 2, errors := Misuse.profilesMissing.report .program } := rfl

/-- A line with an attached selection is refused for its file, or for want of one. -/
theorem attached_refused_iff :
    (run validator host (attachedWords file text)).ending = .exit 2 ∧
        (run validator host (attachedWords file text)).output = "" ↔
      ¬ IsValue file ∨ file = "" ∧
        (thresholds.lookup (levelName none (.ofEnvironment host.environment))).isSome = true := by
  by_cases hfile : IsValue file
  swap
  · simp [hfile, run_of_refused_words (refused_of_file hfile _), attachedWords]
  have hwords : Invocation.ofWords (attachedWords file text) =
      .resolve none (argumentsOf file [(.selection, text)]) := by
    rw [attachedWords_eq, runWords, ofWords_file hfile (by simp)]
  rw [run, hwords]
  simp only [hfile, not_true_eq_false, false_or, withLogging]
  cases hlevel : thresholds.lookup (levelName none (.ofEnvironment host.environment)) with
  | none => simp
  | some threshold =>
    simp only [Option.isSome_some, and_true]
    constructor
    · exact fun h => file_of_exit_two h.1
    · rintro rfl
      rw [runResolve_without_file]
      exact ⟨rfl, rfl⟩

/-- **A selection behind its option does what it does in the word of its option
just if it stands alone**, or if neither line gets as far as the selection. One that
does not stand alone is refused, whatever it says. -/
theorem run_detached_selection (validator : Validator) (host : Host) (file text : Text) :
    let detached := run validator host [resolveName, "--profiles", file, "-P", text]
    let attached := run validator host [resolveName, "--profiles", file, "--activate-profiles=" ++ text]
    (IsValue text → IsValue file → detached = attached) ∧
    (¬ IsValue text → detached.ending = .exit 2 ∧ detached.output = "") ∧
    (detached.ending = attached.ending ∧ detached.output = attached.output ↔
      IsValue text ∨ ¬ IsValue file ∨ file = "" ∧
        (thresholds.lookup (levelName none (.ofEnvironment host.environment))).isSome = true) := by
  intro detached attached
  have hsame : IsValue text → IsValue file → detached = attached := fun htext hfile => by
    simp only [detached, attached, run]
    rw [← detachedWords, ← attachedWords, ofWords_detached hfile htext]
  have hrefused : ¬ IsValue text ∨ ¬ IsValue file → detached.ending = .exit 2 ∧ detached.output = "" := by
    intro h
    by_cases hfile : IsValue file
    · exact run_of_refused_words (refused_of_selection hfile (h.resolve_right (not_not.2 hfile)))
    · exact run_of_refused_words (refused_of_file hfile ["-P", text])
  have hattached : attached.ending = .exit 2 ∧ attached.output = "" ↔ ¬ IsValue file ∨ file = "" ∧
      (thresholds.lookup (levelName none (.ofEnvironment host.environment))).isSome = true :=
    attached_refused_iff
  refine ⟨hsame, fun htext => hrefused (.inl htext), ?_⟩
  rw [← hattached]
  constructor
  · rintro ⟨hending, houtput⟩
    by_cases htext : IsValue text
    · exact .inl htext
    · obtain ⟨hexit, hempty⟩ := hrefused (.inl htext)
      exact .inr ⟨hending ▸ hexit, houtput ▸ hempty⟩
  · intro h
    by_cases hread : IsValue text ∧ IsValue file
    · rw [hsame hread.1 hread.2]
      exact ⟨rfl, rfl⟩
    · -- Neither line is read: the one behind the option for either word, the other for the file.
      rw [not_and_or] at hread
      obtain ⟨hexit, hempty⟩ := hrefused hread
      have hother : attached.ending = .exit 2 ∧ attached.output = "" := by
        rcases h with htext | hother
        · exact hattached.2 (.inl (hread.resolve_left (not_not.2 htext)))
        · exact hother
      rw [hexit, hempty, hother.1, hother.2]
      exact ⟨rfl, rfl⟩

/-- A deselection behind its option is refused, though its option is what it is
written for. -/
theorem detached_deselection_refused : ¬ ∀ (host : Host) (file text : Text),
    let detached := run .standard host [resolveName, "--profiles", file, "-P", text]
    let attached := run .standard host [resolveName, "--profiles", file, "--activate-profiles=" ++ text]
    detached.ending = attached.ending ∧ detached.output = attached.output := by
  intro h
  obtain ⟨hending, houtput⟩ := h (uniformHost "\x7b\"profiles\": []\x7d") "p.json" "-c"
  have hfile : IsValue "p.json" := by decide
  have htext : ¬ IsValue "-c" := by decide
  obtain ⟨hexit, hempty⟩ := run_of_refused_words (refused_of_selection hfile htext)
  rw [← detachedWords, hexit] at hending
  rw [← detachedWords, hempty] at houtput
  exact absurd (attached_refused_iff.1 ⟨hending.symm, houtput.symm⟩) (by decide)

end

end BuildProfiles.CommandLine
