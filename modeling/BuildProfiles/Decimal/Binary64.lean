/-
Binary numbers of 64 bits, and the one nearest to a decimal.

A finite number is `significand * 2 ^ exponent`, where the significand is
below `2 ^ 53` and is at least `2 ^ 52` unless the exponent is the least one.
A decimal goes to the nearest such number, and one halfway between two goes to
the one with the even significand. All arithmetic is exact.
-/
namespace BuildProfiles

inductive Binary64 where
  | nan
  | infinity (negative : Bool)
  | finite (negative : Bool) (significand : Nat) (exponent : Int)
  deriving DecidableEq, Repr

namespace Binary64

def twoPow (n : Nat) : Nat := Nat.pow 2 n

def tenPow (n : Nat) : Nat := Nat.pow 10 n

/-- The least exponent of two. -/
def minExponent : Int := -1074

/-- The greatest exponent of two. -/
def maxExponent : Int := 971

/-- `num / den` to the nearest whole number, where a half goes to the even one. -/
def roundHalfEven (num den : Nat) : Nat :=
  let whole := num / den
  let twice := 2 * (num % den)
  if twice < den then whole
  else if den < twice then whole + 1
  else whole + whole % 2

/-- The number nearest to `num / den`, which is not zero. -/
def ofRatio (negative : Bool) (num den : Nat) : Binary64 :=
  let log : Int := (num.log2 : Int) - den.log2
  let reached := den * twoPow log.toNat ≤ num * twoPow (-log).toNat
  let exponent := max (if reached then log - 52 else log - 53) minExponent
  let rounded := roundHalfEven (num * twoPow (-exponent).toNat) (den * twoPow exponent.toNat)
  let (significand, exponent) :=
    if rounded = twoPow 53 then (twoPow 52, exponent + 1) else (rounded, exponent)
  if maxExponent < exponent then .infinity negative else .finite negative significand exponent

/-- The number nearest to `digits * 10 ^ exponent`. Decimals far out of reach
are not computed with. -/
def ofDecimal (negative : Bool) (digits : Nat) (exponent : Int) : Binary64 :=
  let scale := exponent + (Nat.toDigits 10 digits).length
  if digits = 0 ∨ scale < -330 then .finite negative 0 minExponent
  else if 310 < scale then .infinity negative
  else ofRatio negative (digits * tenPow exponent.toNat) (tenPow (-exponent).toNat)

example : ofDecimal false 1 (-1) = .finite false 7205759403792794 (-56) := by decide +kernel

end Binary64

end BuildProfiles
