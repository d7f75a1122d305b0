/-
The shortest decimal text of a binary number.

Of the decimals that read back to the number, those with the fewest digits
are taken, of these the nearest one, and of two equally near ones the even
one. The text is positional from a ten-thousandth up to below `10 ^ 16`, with
at least one digit after the point, and has a signed exponent of two digits
or more otherwise.
-/
import BuildProfiles.Decimal.Binary64

namespace BuildProfiles

/-- `digits * 10 ^ exponent`. -/
structure Decimal where
  digits : Nat
  exponent : Int
  deriving DecidableEq, Repr

namespace Decimal

open Binary64 (twoPow tenPow)

/-- How `a * 10 ^ i` stands to `n * 2 ^ j`. -/
def compareScaled (a : Nat) (i : Int) (n : Nat) (j : Int) : Ordering :=
  compare (a * tenPow i.toNat * twoPow (-j).toNat) (n * twoPow j.toNat * tenPow (-i).toNat)

/-- Whether the decimal rounds to `significand * 2 ^ exponent`: whether it lies
between the middles to the two neighbours. The middles themselves belong to
the number with the even significand, and below a power of two the neighbour
is half as far away. -/
def readsBack (d : Decimal) (significand : Nat) (exponent : Int) : Bool :=
  let narrow := significand = twoPow 52 ∧ Binary64.minExponent < exponent
  let low := 4 * significand - if narrow then 1 else 2
  let high := 4 * significand + 2
  let even := significand % 2 == 0
  let fromLow := compareScaled d.digits d.exponent low (exponent - 2)
  let fromHigh := compareScaled d.digits d.exponent high (exponent - 2)
  (fromLow == .gt || (even && fromLow == .eq)) && (fromHigh == .lt || (even && fromHigh == .eq))

/-- The least power of ten above the number, as an exponent of ten. -/
def scale (significand : Nat) (exponent : Int) : Int :=
  let guess := ((significand.log2 : Int) + exponent) * 30103 / 100000
  let above (k : Int) : Bool := compareScaled 1 k significand exponent == .gt
  (([-1, 0, 1, 2, 3].map (guess + ·)).find? above).getD guess

/-- The decimal of `places` digits that is taken for the number, if one reads back. -/
def candidate? (significand : Nat) (exponent : Int) (places : Nat) : Option Decimal :=
  let grid := scale significand exponent - places
  let num := significand * twoPow exponent.toNat * tenPow (-grid).toNat
  let den := twoPow (-exponent).toNat * tenPow grid.toNat
  let below : Decimal := ⟨num / den, grid⟩
  let above : Decimal := ⟨num / den + 1, grid⟩
  match below.readsBack significand exponent, above.readsBack significand exponent with
  | false, false => none
  | true, false => some below
  | false, true => some above
  | true, true =>
    match compare (2 * num) ((2 * below.digits + 1) * den) with
    | .lt => some below
    | .gt => some above
    | .eq => some (if below.digits % 2 = 0 then below else above)

/-- Without the zeros at the end of the digits, of which at most `most` are dropped. -/
def strip : (most : Nat) → Decimal → Decimal
  | 0, d => d
  | most + 1, d =>
    if d.digits % 10 = 0 then strip most ⟨d.digits / 10, d.exponent + 1⟩ else d

/-- The decimal whose text stands for `significand * 2 ^ exponent`, which is
not zero. Where no decimal of up to seventeen digits read back, it would be
the number itself. -/
def shortest (significand : Nat) (exponent : Int) : Decimal :=
  let exact : Decimal :=
    ⟨significand * twoPow exponent.toNat * Nat.pow 5 (-exponent).toNat, min exponent 0⟩
  let found := (List.range' 1 17).findSome? (candidate? significand exponent)
  strip 17 (found.getD exact)

def digitChars (d : Decimal) : List Char := Nat.toDigits 10 d.digits

def text (d : Decimal) : List Char :=
  let digits := d.digitChars
  let zeros (n : Int) : List Char := List.replicate n.toNat '0'
  let point : Int := digits.length + d.exponent
  if -4 < point ∧ point ≤ 16 then
    if point ≤ 0 then '0' :: '.' :: zeros (-point) ++ digits
    else if digits.length ≤ point then digits ++ zeros d.exponent ++ ['.', '0']
    else digits.take point.toNat ++ '.' :: digits.drop point.toNat
  else
    let power := point - 1
    let powerDigits := Nat.toDigits 10 power.natAbs
    let tail := if digits.length ≤ 1 then [] else '.' :: digits.drop 1
    digits.take 1 ++ tail ++ 'e' :: (if power < 0 then '-' else '+') ::
      (List.replicate (2 - powerDigits.length) '0' ++ powerDigits)

end Decimal

/-- The shortest text that reads back to the number. -/
def Binary64.text : Binary64 → String
  | .nan => "nan"
  | .infinity negative => if negative then "-inf" else "inf"
  | .finite negative significand exponent =>
    let sign := if negative then ['-'] else []
    let size := if significand = 0 then ['0', '.', '0']
      else (Decimal.shortest significand exponent).text
    String.ofList (sign ++ size)

example : (Binary64.ofDecimal false 30000000000000004 (-17)).text = "0.30000000000000004" := by
  decide +kernel
example : (Binary64.ofDecimal true 10000 12).text = "-1e+16" := by decide +kernel
example : (Binary64.ofDecimal false 1 (-5)).text = "1e-05" := by decide +kernel

end BuildProfiles
