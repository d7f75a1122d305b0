/-
Cutting a JSON text into tokens.

Every token knows where it starts. A text that no token opens, or a string
that cannot be read, is a token too, and nothing follows it: only the reader
knows what was expected there.
-/
import BuildProfiles.Json.Value
import BuildProfiles.Numeral

namespace BuildProfiles.Json

open Text

/-- What a text is found to violate, at some place. -/
inductive Cause where
  | byteOrderMark
  | expectingValue
  | expectingName
  | expectingColon
  | expectingComma
  | extraData
  | unterminatedString
  | controlCharacter
  | invalidEscape
  | invalidUnit
  deriving DecidableEq, Repr

inductive Token where
  | beginArray
  | endArray
  | beginObject
  | endObject
  | colon
  | comma
  | scalar (value : Value)
  | text (content : Text)
  /-- A string that breaks off at a position. -/
  | brokenText (cause : Cause) (position : Nat)
  /-- A whole number with too many digits. -/
  | oversized (digits : Nat)
  /-- No token starts here. -/
  | unknown
  deriving Repr

/-- A token and the position of its first character. -/
structure Lexeme where
  token : Token
  position : Nat
  deriving Repr

def isSpace (c : Char) : Bool := c == ' ' || c == '\t' || c == '\n' || c == '\r'

/-! ## Strings -/

/-- The character that a letter after a backslash stands for. -/
def escapeLetter? : Char → Option Char
  | '"' => some '"'
  | '\\' => some '\\'
  | '/' => some '/'
  | 'b' => some '\x08'
  | 'f' => some '\x0c'
  | 'n' => some '\n'
  | 'r' => some '\r'
  | 't' => some '\t'
  | _ => none

/-- The 16-bit unit that opens the text in four hexadecimal digits. Something
must follow them. -/
def unit? : List Char → Option Nat
  | a :: b :: c :: d :: _ :: _ => do
    let a ← hexValue? a
    let b ← hexValue? b
    let c ← hexValue? c
    let d ← hexValue? d
    return ((a * 16 + b) * 16 + c) * 16 + d
  | _ => none

/-- The second unit of a pair whose first one stands before the text. -/
def lowUnit? : List Char → Option Nat
  | '\\' :: 'u' :: s => (unit? s).filter fun n => 0xDC00 ≤ n && n < 0xE000
  | _ => none

/-- The code point of a unit that opens the text, and the number of characters
that write it. Two units may make a pair; half a pair stands for itself. -/
def unitPoint (unit : Nat) (rest : List Char) : CodePoint × Nat :=
  match if 0xD800 ≤ unit ∧ unit < 0xDC00 then lowUnit? rest else none with
  | some low => (.ofNat (0x10000 + (unit - 0xD800) * 0x400 + (low - 0xDC00)), 10)
  | none => (.ofNat unit, 4)

/-- The code point that stands behind a backslash at `position`, and the number
of characters that write it. -/
def escape (start position : Nat) : List Char → Except Token (CodePoint × Nat)
  | [] => .error (.brokenText .unterminatedString start)
  | 'u' :: s =>
    match unit? s with
    | some unit =>
      let (c, length) := unitPoint unit (s.drop 4)
      .ok (c, length + 1)
    | none => .error (.brokenText .invalidUnit (position + 1))
  | c :: _ =>
    match escapeLetter? c with
    | some c => .ok (c, 1)
    | none => .error (.brokenText .invalidEscape position)

/-- The content of a string up to its closing mark, and the number of
characters taken, the mark included. The string opened at `start`; the first
`skip` characters belong to an escape that has been read. -/
def stringBody (start position : Nat) : (skip : Nat) → List Char → Except Token (List CodePoint × Nat)
  | _, [] => .error (.brokenText .unterminatedString start)
  | skip + 1, _ :: s => do
    let (content, taken) ← stringBody start (position + 1) skip s
    return (content, taken + 1)
  | 0, c :: s =>
    if c = '"' then .ok ([], 1)
    else if c = '\\' then do
      let (point, length) ← escape start position s
      let (content, taken) ← stringBody start (position + 1) length s
      return (point :: content, taken + 1)
    else if c.toNat < 0x20 then .error (.brokenText .controlCharacter position)
    else do
      let (content, taken) ← stringBody start (position + 1) 0 s
      return (c :: content, taken + 1)

/-! ## Numbers and names -/

/-- The value of a run of ASCII digits. -/
def digitsValue (digits : List Char) : Nat := Numeral.ofDigits (digits.map fun c => c.toNat - 48)

/-- The digits before the point: a zero, or digits that do not start with one. -/
def wholeDigits : List Char → List Char
  | '0' :: _ => ['0']
  | s => s.takeWhile Char.isDigit

/-- The digits behind a point that opens the text, if any follow it. -/
def fractionDigits : List Char → List Char
  | '.' :: s => s.takeWhile Char.isDigit
  | _ => []

/-- The sign and the digits of an exponent that opens the text, if it has digits. -/
def exponentParts? : List Char → Option (List Char × List Char)
  | e :: s =>
    if e = 'e' ∨ e = 'E' then
      let (sign, s) := match s with
        | '-' :: s => (['-'], s)
        | '+' :: s => (['+'], s)
        | s => ([], s)
      let digits := s.takeWhile Char.isDigit
      if digits.isEmpty then none else some (sign, digits)
    else none
  | [] => none

/-- The number that opens the text, and the number of characters that write it. -/
def number? (s : List Char) : Option (Token × Nat) :=
  let sign := if s.head? = some '-' then ['-'] else []
  let negative := !sign.isEmpty
  let s := s.drop sign.length
  let whole := wholeDigits s
  if whole.isEmpty then none
  else
    let s := s.drop whole.length
    let fraction := fractionDigits s
    let fractionLength := if fraction.isEmpty then 0 else fraction.length + 1
    let exponent? := exponentParts? (s.drop fractionLength)
    let exponentLength := match exponent? with
      | some (sign, digits) => 1 + sign.length + digits.length
      | none => 0
    let length := sign.length + whole.length + fractionLength + exponentLength
    if fraction.isEmpty && exponent?.isNone then
      let value : Int := digitsValue whole
      if Numeral.maxDigits < whole.length then some (.oversized whole.length, length)
      else some (.scalar (.int (if negative then -value else value)), length)
    else
      let power : Int := match exponent? with
        | some (sign, digits) => if sign = ['-'] then -(digitsValue digits : Int) else digitsValue digits
        | none => 0
      let value := Binary64.ofDecimal negative (digitsValue (whole ++ fraction)) (power - fraction.length)
      some (.scalar (.float value), length)

/-- The values that have a name. -/
def namedValues : List (String × Value) :=
  [("null", .null), ("true", .bool true), ("false", .bool false), ("NaN", .float .nan),
   ("Infinity", .float (.infinity false)), ("-Infinity", .float (.infinity true))]

/-- The name of a value that opens the text, and its length. -/
def named? (s : List Char) : Option (Token × Nat) :=
  (namedValues.find? fun entry => entry.1.toList.isPrefixOf s).map fun entry =>
    (.scalar entry.2, entry.1.length)

/-! ## Whole texts -/

/-- The token that opens the text `c :: s`, and the number of characters of
`s` that belong to it. -/
def lexeme (position : Nat) (c : Char) (s : List Char) : Token × Nat :=
  match c with
  | '[' => (.beginArray, 0)
  | ']' => (.endArray, 0)
  | '{' => (.beginObject, 0)
  | '}' => (.endObject, 0)
  | ':' => (.colon, 0)
  | ',' => (.comma, 0)
  | '"' =>
    match stringBody position (position + 1) 0 s with
    | .ok (content, taken) => (.text (Text.ofList content), taken)
    | .error token => (token, 0)
  | c =>
    match (named? (c :: s)).or (number? (c :: s)) with
    | some (token, length) => (token, length - 1)
    | none => (.unknown, 0)

/-- Whether nothing can be read behind the token. -/
def Token.isLast : Token → Bool
  | .brokenText .. | .unknown => true
  | _ => false

/-- The tokens of a text that starts at `position`. -/
def tokens (position : Nat) : List Char → List Lexeme
  | [] => []
  | c :: s =>
    if isSpace c then tokens (position + 1) s
    else
      let (token, taken) := lexeme position c s
      ⟨token, position⟩ :: if token.isLast then [] else tokens (position + 1 + taken) (s.drop taken)
termination_by s => s.length

end BuildProfiles.Json
