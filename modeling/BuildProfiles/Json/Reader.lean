/-
Reading JSON.

The reader is a machine that takes one token after the other. It remembers
the arrays and objects that are still open and what it expects next, so an
error is what the first token that does not fit was expected to be.
-/
import BuildProfiles.Json.Token

namespace BuildProfiles.Json

/-- A place in a text, by line and column (both from 1) and by offset (from 0). -/
structure Position where
  line : Nat
  column : Nat
  offset : Nat
  deriving DecidableEq, Repr

/-- The place at an offset. Lines end with a line feed. -/
def Position.ofOffset (text : List Char) (offset : Nat) : Position :=
  let before := text.take offset
  { line := before.count '\n' + 1
    column := (before.reverse.takeWhile (· != '\n')).length + 1
    offset }

inductive ReadError where
  | malformed (cause : Cause) (position : Position)
  /-- A whole number has more digits than are read. -/
  | oversized (digits : Nat)
  deriving DecidableEq, Repr

def Cause.message : Cause → String
  | .byteOrderMark => "Unexpected UTF-8 BOM (decode using utf-8-sig)"
  | .expectingValue => "Expecting value"
  | .expectingName => "Expecting property name enclosed in double quotes"
  | .expectingColon => "Expecting ':' delimiter"
  | .expectingComma => "Expecting ',' delimiter"
  | .extraData => "Extra data"
  | .unterminatedString => "Unterminated string starting at"
  | .controlCharacter => "Invalid control character at"
  | .invalidEscape => "Invalid \\escape"
  | .invalidUnit => "Invalid \\uXXXX escape"

def ReadError.message : ReadError → String
  | .malformed cause position =>
    cause.message ++ ": line " ++ toString position.line ++ " column " ++ toString position.column
      ++ " (char " ++ toString position.offset ++ ")"
  | .oversized digits =>
    "Exceeds the limit (" ++ toString Numeral.maxDigits
      ++ " digits) for integer string conversion: value has " ++ toString digits
      ++ " digits; use sys.set_int_max_str_digits() to increase the limit"

/-- An array or object that is still open. -/
inductive Frame where
  /-- The items so far, the last one first. -/
  | array (items : List Value)
  | object (members : List (Text × Value))
  /-- An object that waits for the value of a name. -/
  | member (members : List (Text × Value)) (name : Text)

/-- What the reader expects next. -/
inductive Expected where
  | value
  /-- The first item of an array, or its end. -/
  | firstItem
  | name
  /-- The first name of an object, or its end. -/
  | firstName
  | colon
  /-- A comma, or the end of what is open. -/
  | separator
  /-- Nothing: the value is complete. -/
  | nothing (value : Value)

/-- The reader between two tokens. -/
structure Reader where
  /-- What is open, the innermost first. -/
  stack : List Frame := []
  expected : Expected := .value

inductive Stop where
  | malformed (cause : Cause) (offset : Nat)
  | oversized (digits : Nat)

namespace Reader

/-- What is wrong if no fitting token comes. -/
def missing : Expected → Cause
  | .value | .firstItem => .expectingValue
  | .name | .firstName => .expectingName
  | .colon => .expectingColon
  | .separator => .expectingComma
  | .nothing _ => .extraData

/-- A value has been read; `stack` is what is open around it. -/
def complete (value : Value) : (stack : List Frame) → Reader
  | .array items :: stack => ⟨.array (value :: items) :: stack, .separator⟩
  | .member members name :: stack => ⟨.object (setMember name value members) :: stack, .separator⟩
  | stack => ⟨stack, .nothing value⟩

def takeValue (stack : List Frame) (lexeme : Lexeme) : Except Stop Reader :=
  match lexeme.token with
  | .beginArray => .ok ⟨.array [] :: stack, .firstItem⟩
  | .beginObject => .ok ⟨.object [] :: stack, .firstName⟩
  | .scalar value => .ok (complete value stack)
  | .text content => .ok (complete (.text content) stack)
  | .brokenText cause position => .error (.malformed cause position)
  | .oversized digits => .error (.oversized digits)
  | _ => .error (.malformed .expectingValue lexeme.position)

def takeName (stack : List Frame) (lexeme : Lexeme) : Except Stop Reader :=
  match lexeme.token, stack with
  | .text name, .object members :: stack => .ok ⟨.member members name :: stack, .colon⟩
  | .brokenText cause position, _ => .error (.malformed cause position)
  | _, _ => .error (.malformed .expectingName lexeme.position)

def step (reader : Reader) (lexeme : Lexeme) : Except Stop Reader :=
  match reader.expected, lexeme.token, reader.stack with
  | .value, _, stack => takeValue stack lexeme
  | .firstItem, .endArray, .array items :: stack => .ok (complete (.array items.reverse) stack)
  | .firstItem, _, stack => takeValue stack lexeme
  | .name, _, stack => takeName stack lexeme
  | .firstName, .endObject, .object members :: stack => .ok (complete (.object members) stack)
  | .firstName, _, stack => takeName stack lexeme
  | .colon, .colon, stack => .ok ⟨stack, .value⟩
  | .separator, .comma, .array items :: stack => .ok ⟨.array items :: stack, .value⟩
  | .separator, .endArray, .array items :: stack => .ok (complete (.array items.reverse) stack)
  | .separator, .comma, .object members :: stack => .ok ⟨.object members :: stack, .name⟩
  | .separator, .endObject, .object members :: stack => .ok (complete (.object members) stack)
  | expected, _, _ => .error (.malformed (missing expected) lexeme.position)

/-- The end of the text, at `offset`. -/
def finish (reader : Reader) (offset : Nat) : Except Stop Value :=
  match reader.expected with
  | .nothing value => .ok value
  | expected => .error (.malformed (missing expected) offset)

end Reader

def read (text : List Char) : Except ReadError Value :=
  let outcome :=
    if text.head? = some '\ufeff' then .error (.malformed .byteOrderMark 0)
    else do
      let reader ← (tokens 0 text).foldlM Reader.step {}
      reader.finish text.length
  match outcome with
  | .ok value => .ok value
  | .error (.malformed cause offset) => .error (.malformed cause (.ofOffset text offset))
  | .error (.oversized digits) => .error (.oversized digits)

end BuildProfiles.Json
