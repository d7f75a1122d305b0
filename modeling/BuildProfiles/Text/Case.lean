/-
Small letters and capitals of whole texts.

Case is a matter of texts and not of characters: a few letters are written
with several characters in the other case, and a capital sigma becomes the
final one at the end of a word.
-/
import BuildProfiles.Text.Blank
import BuildProfiles.Text.CaseTable

namespace BuildProfiles.Text

def CaseStretch.holds (stretch : CaseStretch) (n : Nat) : Bool :=
  stretch.first ≤ n && n ≤ stretch.last && (n - stretch.first) % stretch.step == 0

/-- One character in the other case, out of the two lists of a case. -/
def recased (spelled : List (Nat × List Nat)) (stretches : List CaseStretch) (c : CodePoint) : List CodePoint :=
  match spelled.lookup c.toNat with
  | some letters => letters.map CodePoint.ofNat
  | none =>
    match stretches.find? (·.holds c.toNat) with
    | some stretch => [CodePoint.ofNat (c.toNat + stretch.shift).toNat]
    | none => [c]

/-- Whether the text goes on with a letter that has a case. -/
def meetsCased (s : List CodePoint) : Bool :=
  (s.dropWhile (inRanges caseIgnorableRanges)).head?.any (inRanges casedRanges)

/-- Small letters for `s`, which follows the characters of `before` (nearest first). -/
def lowerAfter (before : List CodePoint) : List CodePoint → List CodePoint
  | [] => []
  | c :: s =>
    let small : List CodePoint :=
      if c = 'Σ' then [if meetsCased before && !meetsCased s then 'ς' else 'σ']
      else recased lowerSpelled lowerStretches c
    small ++ lowerAfter (c :: before) s

def lower (s : Text) : Text := Text.ofList (lowerAfter [] s.toList)

def upper (s : Text) : Text :=
  Text.ofList (s.toList.flatMap (recased upperSpelled upperStretches))

example : lower "YES" = "yes" := by decide +kernel
example : lower "ΑΣ" = "ας" := by decide +kernel
example : upper "straße" = "STRASSE" := by decide +kernel

end BuildProfiles.Text
