/-
Reading a whole number from a text.

Blanks around the number are allowed, one sign may stand in front of it, and
the digits may come from any script, even mixed. A number has at most 4300
digits, leading zeros included. The four information separators are blank
characters elsewhere and are not allowed around a number.
-/
import BuildProfiles.Text.Blank
import BuildProfiles.Text.DecimalDigit

namespace BuildProfiles.Numeral

open Text

def maxDigits : Nat := 4300

/-- A character allowed around a number. -/
def isMargin (c : CodePoint) : Bool := isBlank c && !(0x1C ≤ c.toNat && c.toNat ≤ 0x1F)

/-- The number that the digits write, most significant first. -/
def ofDigits (digits : List Nat) : Nat := digits.foldl (fun n d => 10 * n + d) 0

/-- Digits only, at least one and not too many. -/
def natural? (s : List CodePoint) : Option Nat :=
  if s.isEmpty || maxDigits < s.length then none else (s.mapM digitValue?).map ofDigits

/-- A number with an optional sign and nothing around it. -/
def signed? : List CodePoint → Option Int
  | .char '-' :: s => (natural? s).map fun n => -(n : Int)
  | .char '+' :: s => (natural? s).map Int.ofNat
  | s => (natural? s).map Int.ofNat

/-- The whole number that the text writes, if it writes one. -/
def read? (s : List CodePoint) : Option Int := signed? (trimBy isMargin s)

example : read? (" +07" : Text).toList = some 7 := by decide +kernel
example : read? ("٣1" : Text).toList = some 31 := by decide +kernel
example : read? ("- 1" : Text).toList = none := by decide +kernel

end BuildProfiles.Numeral
