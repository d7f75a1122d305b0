/-
Decoding UTF-8.

The decoder takes one octet after the other. Between octets it either is at a
character boundary or owes octets to the character that it has begun; the
first owed octet may be restricted, so that no overlong form, surrogate or
value out of range passes. An error names the octets of the broken character
up to the one that does not fit.
-/
import BuildProfiles.Text.Hex

namespace BuildProfiles.Text.Utf8

inductive Reason where
  | invalidStart
  | invalidContinuation
  | unexpectedEnd
  deriving DecidableEq, Repr

/-- Octets that are no character, and the position of the first. -/
structure Error where
  position : Nat
  octets : List UInt8
  reason : Reason
  deriving DecidableEq, Repr

def Reason.message : Reason → String
  | .invalidStart => "invalid start byte"
  | .invalidContinuation => "invalid continuation byte"
  | .unexpectedEnd => "unexpected end of data"

/-- The wording of the error: one octet is shown, several are counted. -/
def Error.message (error : Error) : String :=
  let what := match error.octets with
    | [octet] =>
      "byte 0x" ++ String.ofList (hex 2 octet.toNat) ++ " in position " ++ toString error.position
    | octets =>
      "bytes in position " ++ toString error.position ++ "-"
        ++ toString (error.position + octets.length - 1)
  "'utf-8' codec can't decode " ++ what ++ ": " ++ error.reason.message

/-- A character that is begun. -/
structure Begun where
  /-- Where it began. -/
  position : Nat
  /-- Its octets so far, the last one first. -/
  octets : List UInt8
  /-- The bits so far. -/
  bits : Nat
  /-- How many more octets follow the next one. -/
  later : Nat
  /-- The least and the greatest next octet. -/
  least : Nat
  greatest : Nat

/-- The character that the octet begins, if it begins one of several octets. -/
def begin? (position : Nat) (octet : UInt8) : Option Begun :=
  let n := octet.toNat
  let begun (bits later least greatest : Nat) := some ⟨position, [octet], bits, later, least, greatest⟩
  if n < 0xC2 then none
  else if n < 0xE0 then begun (n - 0xC0) 0 0x80 0xBF
  else if n < 0xF0 then
    begun (n - 0xE0) 1 (if n = 0xE0 then 0xA0 else 0x80) (if n = 0xED then 0x9F else 0xBF)
  else if n < 0xF5 then
    begun (n - 0xF0) 2 (if n = 0xF0 then 0x90 else 0x80) (if n = 0xF4 then 0x8F else 0xBF)
  else none

/-- The characters of octets that start at `position`. -/
def decodeFrom (position : Nat) : Option Begun → List UInt8 → Except Error (List Char)
  | none, [] => .ok []
  | some begun, [] => .error ⟨begun.position, begun.octets.reverse, .unexpectedEnd⟩
  | none, octet :: octets =>
    if octet.toNat < 0x80 then do
      let rest ← decodeFrom (position + 1) none octets
      return Char.ofNat octet.toNat :: rest
    else match begin? position octet with
      | some begun => decodeFrom (position + 1) (some begun) octets
      | none => .error ⟨position, [octet], .invalidStart⟩
  | some begun, octet :: octets =>
    let n := octet.toNat
    if n < begun.least ∨ begun.greatest < n then
      .error ⟨begun.position, begun.octets.reverse, .invalidContinuation⟩
    else
      let bits := begun.bits * 64 + (n - 0x80)
      match begun.later with
      | 0 => do
        let rest ← decodeFrom (position + 1) none octets
        return Char.ofNat bits :: rest
      | later + 1 =>
        let begun := { begun with
          octets := octet :: begun.octets, bits, later, least := 0x80, greatest := 0xBF }
        decodeFrom (position + 1) (some begun) octets

def decode (octets : List UInt8) : Except Error (List Char) := decodeFrom 0 none octets

example : decode [0x41, 0xC3, 0xA9] = .ok ['A', 'é'] := by cbv
example : decode [0xE0, 0x80] = .error ⟨0, [0xE0], .invalidContinuation⟩ := by cbv

end BuildProfiles.Text.Utf8
