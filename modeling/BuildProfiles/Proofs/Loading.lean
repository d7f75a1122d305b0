/-
What comes of loading a file.

Any sequence of octets may stand in a file. It is decoded, read as JSON and
held against the schema, and each of the three may refuse it; the refusal
names the file. One thing alone is no refusal: a whole number with more digits
than are read, at a place where a value may stand. `MeetsLongNumber` says where
reading meets one, and the digits of such a number stand in the text one
behind the other, so a file that is short of so many digits is never without
an answer.
-/
import BuildProfiles.CommandLine
import BuildProfiles.Definitions.Validation
import BuildProfiles.Proofs.Reading

namespace BuildProfiles

namespace Definitions

/-- The octets are those of a text that writes the value. -/
def Writes (octets : List UInt8) (value : Json.Value) : Prop :=
  ∃ text, Text.Utf8.decode octets = .ok text ∧ Json.read (Text.unifyLineEnds text) = .ok value

/-- The octets are those of a text in which reading meets a number that is too long. -/
def Overlong (octets : List UInt8) (digits : Nat) : Prop :=
  ∃ text, Text.Utf8.decode octets = .ok text ∧ Json.MeetsLongNumber (Text.unifyLineEnds text) digits

/-- What a file comes to before its document is looked at. -/
inductive Opened (path : Text) (octets : List UInt8) : Except LoadError Json.Value → Prop
  | written {value} : Writes octets value → Opened path octets (.ok value)
  | refused {error : DefinitionError} : error.path = path → Opened path octets (.error (.definitions error))
  | overlong {digits} : Overlong octets digits → Opened path octets (.error (.oversized digits))

theorem opened_document (path : Text) (octets : List UInt8) :
    Opened path octets (document path octets) := by
  unfold document
  split
  · exact .refused rfl
  · rename_i text htext
    split
    · rename_i value hvalue
      exact .written ⟨text, htext, hvalue⟩
    · exact .refused rfl
    · rename_i digits hdigits
      exact .overlong ⟨text, htext, Json.read_oversized_iff.1 hdigits⟩

theorem document_eq_ok_iff {path : Text} {octets : List UInt8} {value : Json.Value} :
    document path octets = .ok value ↔ Writes octets value := by
  constructor
  · intro h
    have hopened := opened_document path octets
    rw [h] at hopened
    cases hopened with
    | written h => exact h
  · rintro ⟨text, htext, hvalue⟩
    simp only [document, htext, hvalue]

theorem document_oversized_iff {path : Text} {octets : List UInt8} {digits : Nat} :
    document path octets = .error (.oversized digits) ↔ Overlong octets digits := by
  constructor
  · intro h
    have hopened := opened_document path octets
    rw [h] at hopened
    cases hopened with
    | overlong h => exact h
  · rintro ⟨text, htext, hlong⟩
    simp only [document, htext, Json.read_oversized_iff.2 hlong]

theorem parse_error_path {loader : Loader} {sourceName : Text} {value : Json.Value} {error : DefinitionError}
    (h : parse loader sourceName value = .error error) : error.path = sourceName := by
  unfold parse at h
  split at h <;> cases h
  rfl

section

variable {loader : Loader} {path : Path} {octets : List UInt8}

theorem load_file : load loader path (.file octets) =
    document path.text octets >>= fun value => (parse loader path.text value).mapError .definitions :=
  rfl

theorem load_eq_ok_iff {profiles : List Profile} :
    load loader path (.file octets) = .ok profiles ↔
      ∃ value, Writes octets value ∧ parse loader path.text value = .ok profiles := by
  rw [load_file, bind_eq_ok_iff]
  simp only [document_eq_ok_iff]
  refine exists_congr fun value => and_congr_right fun _ => ?_
  cases parse loader path.text value with
  | error refused => exact ⟨nofun, nofun⟩
  | ok parsed =>
    show (.ok parsed : Except LoadError (List Profile)) = .ok profiles ↔ _
    rw [Except.ok.injEq, Except.ok.injEq]

/-- Where a file is not loaded, it is refused under its path or has a number
that is too long. -/
theorem load_error {error : LoadError} (h : load loader path (.file octets) = .error error) :
    (∃ refused, error = .definitions refused ∧ refused.path = path.text) ∨
      ∃ digits, error = .oversized digits ∧ Overlong octets digits := by
  rw [load_file, bind_eq_error_iff] at h
  rcases h with h | ⟨value, -, h⟩
  · have hopened := opened_document path.text octets
    rw [h] at hopened
    cases hopened with
    | refused hpath => exact .inl ⟨_, rfl, hpath⟩
    | overlong hlong => exact .inr ⟨_, rfl, hlong⟩
  · cases hparse : parse loader path.text value with
    | ok profiles => rw [hparse] at h; cases h
    | error refused =>
      rw [hparse] at h
      cases h
      exact .inl ⟨refused, rfl, parse_error_path hparse⟩

theorem load_of_overlong {digits : Nat} (h : Overlong octets digits) :
    load loader path (.file octets) = .error (.oversized digits) := by
  rw [load_file, bind_eq_error_iff]
  exact .inl (document_oversized_iff.2 h)

end

end Definitions

namespace CommandLine

/-- What comes of the definitions at a file. -/
def definitionsAt (validator : Validator) (host : Host) (file : Text) : Except LoadError (List Profile) :=
  Definitions.load ⟨validator, pomSource⟩ (.ofText file) (host.entry (.ofText file))

/-- A run of the program that gets as far as loading the definitions at `file`. -/
def Loads (host : Host) (words : List Text) (file : Text) : Prop :=
  ∃ level arguments, Invocation.ofWords words = .resolve level arguments ∧
    (thresholds.lookup (levelName level (.ofEnvironment host.environment))).isSome = true ∧
    Text.ifFilled (arguments.profiles.or (Settings.ofEnvironment host.environment).profilesFile) = some file

theorem run_of_refused {validator : Validator} {host : Host} {words : List Text} {file : Text}
    (h : Loads host words file) {error : DefinitionError}
    (hload : definitionsAt validator host file = .error (.definitions error)) :
    run validator host words = { ending := .exit 1, errors := refusal error } := by
  obtain ⟨level, arguments, hwords, hlevel, hfile⟩ := h
  obtain ⟨threshold, hthreshold⟩ := Option.isSome_iff_exists.1 hlevel
  rw [definitionsAt] at hload
  simp only [run, hwords, withLogging, hthreshold, runResolve, hfile, hload]

end CommandLine

namespace Definitions

open CommandLine (Loads definitionsAt)

/-- **A file is loaded, or refused under its path, unless it has a number that
is too long**: then that number is what comes of it, and the file writes its
digits one after the other. So every other file that cannot be used ends a run
of the program with the code 1. -/
theorem load_or_refused_iff (loader : Loader) (path : Path) (octets : List UInt8) :
    (∀ value, Writes octets value → load loader path (.file octets) =
      (parse loader path.text value).mapError .definitions) ∧
    ((∃ value profiles, Writes octets value ∧ parse loader path.text value = .ok profiles ∧
        load loader path (.file octets) = .ok profiles) ∨
      (∃ error, load loader path (.file octets) = .error (.definitions error) ∧
        error.path = path.text) ↔ ∀ digits, ¬ Overlong octets digits) ∧
    (∀ digits, Overlong octets digits → load loader path (.file octets) = .error (.oversized digits) ∧
      ∃ text, Text.Utf8.decode octets = .ok text ∧ Json.HasLongRun (Text.unifyLineEnds text) digits) ∧
    ∀ host words file, Loads host words file → host.entry (.ofText file) = .file octets →
      (∀ digits, ¬ Overlong octets digits) →
      (∀ profiles, load ⟨loader.validator, pomSource⟩ (.ofText file) (.file octets) ≠ .ok profiles) →
      ∃ error, load ⟨loader.validator, pomSource⟩ (.ofText file) (.file octets) = .error (.definitions error) ∧
        CommandLine.run loader.validator host words = { ending := .exit 1, errors := CommandLine.refusal error } := by
  refine ⟨fun value hvalue => ?_, ⟨?_, fun h => ?_⟩, fun digits h => ?_,
    fun host words file hruns hentry hshort hunusable => ?_⟩
  · rw [load_file, document_eq_ok_iff.2 hvalue]
    rfl
  · rintro (⟨value, profiles, -, -, hload⟩ | ⟨error, hload, -⟩) digits hlong
    · rw [load_of_overlong hlong] at hload
      cases hload
    · rw [load_of_overlong hlong] at hload
      cases hload
  · cases hload : load loader path (.file octets) with
    | ok profiles =>
      obtain ⟨value, hwrites, hparse⟩ := load_eq_ok_iff.1 hload
      exact .inl ⟨value, profiles, hwrites, hparse, rfl⟩
    | error error =>
      rcases load_error hload with ⟨refused, rfl, hpath⟩ | ⟨digits, -, hlong⟩
      · exact .inr ⟨refused, rfl, hpath⟩
      · exact (h digits hlong).elim
  · obtain ⟨text, htext, hlong⟩ := id h
    exact ⟨load_of_overlong h, text, htext, hlong.hasLongRun⟩
  · cases hload : load ⟨loader.validator, pomSource⟩ (.ofText file) (.file octets) with
    | ok profiles => exact (hunusable profiles hload).elim
    | error error =>
      rcases load_error hload with ⟨refused, rfl, -⟩ | ⟨digits, -, hlong⟩
      · refine ⟨refused, rfl, CommandLine.run_of_refused hruns ?_⟩
        rw [definitionsAt, hentry, hload]
      · exact (hshort digits hlong).elim

/-- An array that is not closed is refused, and the run ends with the code 1. -/
theorem load_unclosed_array :
    let octets : List UInt8 := [0x5B, 0x31]
    let host : Host := { environment := .empty, system := "", machine := "", release := "", directory := "/"
                         entry := fun _ => .file octets, resolve := id, clock := "" }
    let words : List Text := ["resolve", "--profiles", "p.json"]
    (Loads host words "p.json" ∧ (∀ digits, ¬ Overlong octets digits) ∧
      ∀ profiles, load ⟨.standard, pomSource⟩ (.ofText "p.json") (.file octets) ≠ .ok profiles) ∧
      ∃ error, load ⟨.standard, pomSource⟩ (.ofText "p.json") (.file octets) = .error (.definitions error) ∧
        CommandLine.run .standard host words = { ending := .exit 1, errors := CommandLine.refusal error } := by
  intro octets host words
  have hloads : Loads host words "p.json" := by
    refine ⟨none, ⟨some "p.json", [], [], none⟩, ?_, ?_, ?_⟩ <;> decide +kernel
  have hshort : ∀ digits, ¬ Overlong octets digits := by
    rintro digits ⟨text, htext, hlong⟩
    have hlength := hlong.hasLongRun.lt_length
    rw [show Text.Utf8.decode octets = .ok ['[', '1'] from rfl] at htext
    cases htext
    revert hlength
    decide
  have hunusable : ∀ profiles, load ⟨.standard, pomSource⟩ (.ofText "p.json") (.file octets) ≠ .ok profiles := by
    intro profiles h
    have hnone : (load ⟨.standard, pomSource⟩ (.ofText "p.json") (.file octets)).toOption.isNone = true := by
      decide +kernel
    rw [h] at hnone
    cases hnone
  obtain ⟨-, -, -, runs⟩ := load_or_refused_iff ⟨.standard, pomSource⟩ (.ofText "p.json") octets
  exact ⟨⟨hloads, hshort, hunusable⟩, runs host words "p.json" hloads rfl hshort hunusable⟩

/-! ## A file of digits -/

theorem decode_ones (n position : Nat) :
    Text.Utf8.decodeFrom position none (List.replicate n 0x31) = .ok (List.replicate n '1') := by
  induction n generalizing position with
  | zero => rfl
  | succ n ih =>
    rw [List.replicate_succ, Text.Utf8.decodeFrom, ih]
    rfl

theorem unifyLineEnds_ones (n : Nat) : Text.unifyLineEnds (List.replicate n '1') = List.replicate n '1' := by
  induction n with
  | zero => rfl
  | succ n ih => simp [List.replicate_succ, Text.unifyLineEnds, ih]

theorem number?_ones {n : Nat} (h : Numeral.maxDigits < n + 1) :
    Json.number? (List.replicate (n + 1) '1') = some (.oversized (n + 1), n + 1) := by
  have hwhole : Json.wholeDigits (List.replicate (n + 1) '1') = List.replicate (n + 1) '1' := by
    rw [List.replicate_succ, Json.wholeDigits]
    · rw [← List.replicate_succ, List.takeWhile_replicate_eq_filter]
      simp
    · intro s h
      simp at h
  simp [Json.number?, hwhole, List.head?_replicate, h, Json.fractionDigits, Json.exponentParts?]

theorem tokens_ones {n : Nat} (h : Numeral.maxDigits < n + 1) :
    Json.tokens 0 (List.replicate (n + 1) '1') = [⟨.oversized (n + 1), 0⟩] := by
  have hlexeme : Json.lexeme 0 '1' (List.replicate n '1') = (.oversized (n + 1), n) := by
    have hnumber := number?_ones h
    rw [List.replicate_succ] at hnumber
    simp [Json.lexeme, hnumber, Json.named?, Json.namedValues]
  rw [List.replicate_succ, Json.tokens]
  simp [hlexeme, Json.isSpace, Json.Token.isLast, Json.tokens]

theorem overlong_ones {n : Nat} (h : Numeral.maxDigits < n + 1) :
    Overlong (List.replicate (n + 1) 0x31) (n + 1) := by
  refine ⟨List.replicate (n + 1) '1', decode_ones _ _, ?_, [], 0, [], {}, ?_, rfl, .inl rfl⟩
  · rw [unifyLineEnds_ones, List.replicate_succ, List.head?_cons]
    decide
  · rw [unifyLineEnds_ones, tokens_ones h]
    rfl

/-- Not every file is loaded or refused: the digit one, written 4301 times, is neither. -/
theorem long_number_not_refused : ¬ ∀ octets : List UInt8,
    (∃ profiles, load ⟨.standard, pomSource⟩ (.ofText "p.json") (.file octets) = .ok profiles) ∨
      ∃ error, load ⟨.standard, pomSource⟩ (.ofText "p.json") (.file octets) = .error (.definitions error) := by
  intro h
  have hload : load ⟨.standard, pomSource⟩ (.ofText "p.json") (.file (List.replicate 4301 0x31)) =
      .error (.oversized 4301) := load_of_overlong (overlong_ones (n := 4300) (by decide))
  rcases h (List.replicate 4301 0x31) with ⟨profiles, hok⟩ | ⟨error, herror⟩
  · rw [hload] at hok
    cases hok
  · rw [hload] at herror
    cases herror

end Definitions

end BuildProfiles
