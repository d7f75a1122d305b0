/-
Options on a command line.

An option is known by its names; the first of several that fit a shortened
word makes it ambiguous. A word is first classified on its own: as an option,
as something that looks like one, or as an operand. Then the words are read in
order, and an option that takes a value takes the text attached to it or the
operand behind it. The only options that take no value ask for help.
-/
import BuildProfiles.Text.DecimalDigit
import BuildProfiles.Text.Quoted

namespace BuildProfiles.CommandLine

/-- An option. One without a key asks for help and takes no value. -/
structure Flag (α : Type) where
  names : List Text
  key : Option α

/-- What a word is, seen on its own. -/
inductive Word (α : Type) where
  | operand (word : Text)
  /-- The word `--`, behind which all words are operands. -/
  | separator
  /-- An option under one of its names, and the text attached to it in the same word. -/
  | option (flag : Flag α) (name : Text) (attached : Option Text)
  /-- It looks like an option and is none. -/
  | unknown (word : Text)

inductive Misuse where
  | ambiguous (word : Text) (names : List Text)
  | valueMissing (names : List Text)
  | valueIgnored (names : List Text) (value : Text)
  | unknownCommand (word : Text)
  | unrecognized (words : List Text)
  | profilesMissing
  deriving DecidableEq, Repr

/-! ## One word -/

/-- What the longer names of options open with. -/
def dashes : List CodePoint := ['-', '-']

/-- The names of all options, in order, each with its option. -/
def nameTable {α : Type} (flags : List (Flag α)) : List (Text × Flag α) :=
  flags.flatMap fun flag => flag.names.map fun name => (name, flag)

/-- Whether the word is a number with a minus sign, possibly with a point. A
line feed at its end does not count. -/
def isNegativeNumber (word : List CodePoint) : Bool :=
  let isDigit (c : CodePoint) : Bool := (Text.digitValue? c).isSome
  let body := if word.getLast? = some (.char '\n') then word.dropLast else word
  match body with
  | .char '-' :: digits =>
    match digits.dropWhile isDigit with
    | [] => !digits.isEmpty
    | .char '.' :: fraction => !fraction.isEmpty && fraction.all isDigit
    | _ => false
  | _ => false

/-- The ways to read a word as a shortened option. A word with two dashes may
be the beginning of a name; a word with one dash may be a name of one letter
with its value, or the beginning of a name. -/
def readings {α : Type} (table : List (Text × Flag α)) (word : List CodePoint) :
    List (Text × Word α) :=
  let before := word.takeWhile (· != .char '=')
  let attached : Option Text :=
    match word.dropWhile (· != .char '=') with
    | [] => none
    | _ :: text => some (Text.ofList text)
  if dashes.isPrefixOf word then
    (table.filter fun entry => before.isPrefixOf entry.1.toList).map fun entry =>
      (entry.1, .option entry.2 entry.1 attached)
  else
    table.filterMap fun entry =>
      if entry.1.toList = word.take 2 then
        some (entry.1, .option entry.2 entry.1 (some (Text.ofList (word.drop 2))))
      else if word.isPrefixOf entry.1.toList then some (entry.1, .option entry.2 entry.1 none)
      else none

def classify {α : Type} (table : List (Text × Flag α)) (word : Text) : Except Misuse (Word α) :=
  let text := word.toList
  let before := text.takeWhile (· != .char '=')
  let after := text.dropWhile (· != .char '=')
  if text.head? ≠ some (.char '-') then .ok (.operand word)
  else match table.lookup word with
  | some flag => .ok (.option flag word none)
  | none =>
    if text.length = 1 then .ok (.operand word)
    else match table.lookup (Text.ofList before), after with
    | some flag, _ :: attached =>
      .ok (.option flag (Text.ofList before) (some (Text.ofList attached)))
    | _, _ =>
      match readings table text with
      | [(_, reading)] => .ok reading
      | [] =>
        if isNegativeNumber text || text.contains (.char ' ') then .ok (.operand word)
        else .ok (.unknown word)
      | several => .error (.ambiguous word (several.map Prod.fst))

/-- What the words are. Every word is classified before any is acted on. -/
def classifyAll {α : Type} (table : List (Text × Flag α)) : List Text → Except Misuse (List (Word α))
  | [] => .ok []
  | word :: words =>
    if word = "--" then .ok (.separator :: words.map .operand)
    else do
      let first ← classify table word
      let rest ← classifyAll table words
      return first :: rest

/-- The word as it was written, where it is an operand. -/
def Word.operand? {α : Type} : Word α → Option Text
  | .operand word => some word
  | _ => none

/-! ## One option -/

/-- What reading the words comes to, as far as it does not go on. -/
inductive Halt where
  | help
  | misuse (misuse : Misuse)

/-- An option that takes a value, and the value that it is given, if it is not left without. -/
abbrev Given (α : Type) := α × Option Text

/-- The value that an attached text is. The text `--` separates, and is no value. -/
def attachedValue (text : Text) : Option Text := if text = "--" then none else some text

/-- The letters attached to an option that asks for help, read as further
options of one letter, up to one that takes a value: the letters behind that
one are its value. The result is the option that is left to take its value
from elsewhere; help is given only after that. -/
def helpCluster {α : Type} (table : List (Text × Flag α)) (flag : Flag α) :
    List CodePoint → Except Misuse (Option (Flag α))
  | [] => .ok none
  | letter :: letters =>
    match table.lookup (Text.ofList ['-', letter]) with
    | none => .error (.valueIgnored flag.names (Text.ofList (letter :: letters)))
    | some next =>
      match next.key, letters with
      | none, _ => helpCluster table next letters
      | some _, [] => .ok (some next)
      | some _, _ :: _ => .ok none

/-- An option with nothing attached: its value is the operand behind it. -/
def readDetached {α : Type} (flag : Flag α) (words : List (Word α)) :
    Except Halt (Given α × List (Word α)) :=
  match flag.key, words with
  | none, _ => .error .help
  | some key, .operand value :: words => .ok ((key, some value), words)
  | some _, _ => .error (.misuse (.valueMissing flag.names))

/-- What an option that asks for help comes to, where a text is attached to
it. Only a name of one letter can have more letters behind it. -/
def readHelp {α : Type} (table : List (Text × Flag α)) (flag : Flag α) (name text : Text)
    (words : List (Word α)) : Halt :=
  if dashes.isPrefixOf name.toList || text = "" then .misuse (.valueIgnored flag.names text)
  else match helpCluster table flag text.toList with
    | .error misuse => .misuse misuse
    | .ok none => .help
    | .ok (some last) =>
      match readDetached last words with
      | .error halt => halt
      | .ok _ => .help

/-- An option: the value it is given, and the words behind it. -/
def readOption {α : Type} (table : List (Text × Flag α)) (flag : Flag α) (name : Text)
    (attached : Option Text) (words : List (Word α)) : Except Halt (Given α × List (Word α)) :=
  match attached, flag.key with
  | none, _ => readDetached flag words
  | some text, some key => .ok ((key, attachedValue text), words)
  | some text, none => .error (readHelp table flag name text words)

theorem length_readDetached {α : Type} {flag : Flag α} {words rest : List (Word α)} {given : Given α}
    (h : readDetached flag words = .ok (given, rest)) : rest.length ≤ words.length := by
  unfold readDetached at h
  split at h
  · cases h
  · cases h; simp
  · cases h

theorem length_readOption {α : Type} {table : List (Text × Flag α)} {flag : Flag α} {name : Text}
    {attached : Option Text} {words rest : List (Word α)} {given : Given α}
    (h : readOption table flag name attached words = .ok (given, rest)) :
    rest.length ≤ words.length := by
  unfold readOption at h
  split at h
  · exact length_readDetached h
  · cases h; simp
  · cases h

/-! ## All words -/

/-- What has been read of the words of a command. -/
structure Reading (α : Type) where
  given : List (Given α)
  /-- The words that belong to nothing, in order. -/
  extras : List Text
  /-- The words from the first operand on, where reading stops there. -/
  operands : List (Word α)

/-- Reads options up to the first operand, or to the end if operands belong to
nothing. -/
def readWords {α : Type} (table : List (Text × Flag α)) (stopAtOperand : Bool) :
    List (Word α) → Except Halt (Reading α)
  | [] => .ok ⟨[], [], []⟩
  | .operand word :: words =>
    if stopAtOperand then .ok ⟨[], [], .operand word :: words⟩
    else do
      let reading ← readWords table stopAtOperand words
      return { reading with extras := word :: reading.extras }
  | .separator :: words =>
    if stopAtOperand then .ok ⟨[], [], .separator :: words⟩
    else do
      let reading ← readWords table stopAtOperand words
      return { reading with extras := "--" :: reading.extras }
  | .unknown word :: words => do
    let reading ← readWords table stopAtOperand words
    return { reading with extras := word :: reading.extras }
  | .option flag name attached :: words =>
    match h : readOption table flag name attached words with
    | .error halt => .error halt
    | .ok (given, rest) => do
      have := length_readOption h
      let reading ← readWords table stopAtOperand rest
      return { reading with given := given :: reading.given }
termination_by words => words.length

/-- The value given last to the option. Where the option is left without one,
that is as good as an empty text. -/
def Reading.last? {α : Type} [BEq α] (reading : Reading α) (key : α) : Option Text :=
  (reading.given.reverse.lookup key).map (·.getD "")

/-- What the option is given each time, in order. -/
def Reading.all {α : Type} [BEq α] (reading : Reading α) (key : α) : List (Option Text) :=
  (reading.given.filter (·.1 == key)).map (·.2)

end BuildProfiles.CommandLine
