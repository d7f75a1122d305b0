/-
Texts.

A text is a list of code points, and texts are ordered by these. A code point is
a character, or half of a surrogate pair that stands alone: documents can escape
such a half, and it goes where any other code point goes.
-/
namespace BuildProfiles

/-- A code point. The halves of surrogate pairs are no characters. -/
inductive CodePoint where
  | char (c : Char)
  /-- The `n`-th of the halves, the high ones first. -/
  | surrogate (n : Fin 0x800)
  deriving DecidableEq, Repr, Inhabited

namespace CodePoint

instance : Coe Char CodePoint := ⟨char⟩

def char? : CodePoint → Option Char
  | char c => some c
  | surrogate _ => none

def toNat : CodePoint → Nat
  | char c => c.toNat
  | surrogate n => 0xD800 + n

@[simp] theorem toNat_char (c : Char) : (char c).toNat = c.toNat := rfl

/-- The code point of a number below `0x110000`. -/
def ofNat (n : Nat) : CodePoint :=
  if h : 0xD800 ≤ n ∧ n < 0xE000 then surrogate ⟨n - 0xD800, by omega⟩ else char (Char.ofNat n)

/-- The number of a character is that of no half of a pair. -/
theorem toNat_char_bounds (c : Char) : c.toNat < 0xD800 ∨ 0xE000 ≤ c.toNat ∧ c.toNat < 0x110000 := by
  have h := c.valid
  simp only [UInt32.isValidChar, Nat.isValidChar] at h
  show c.val.toNat < _ ∨ _ ≤ c.val.toNat ∧ c.val.toNat < _
  omega

theorem ofNat_toNat (c : CodePoint) : ofNat c.toNat = c := by
  cases c with
  | char c =>
    have h := toNat_char_bounds c
    rw [toNat_char, ofNat, dif_neg (by omega), Char.ofNat_toNat]
  | surrogate n =>
    have h : 0xD800 ≤ (surrogate n).toNat ∧ (surrogate n).toNat < 0xE000 := by
      show 0xD800 ≤ 0xD800 + n.val ∧ 0xD800 + n.val < 0xE000
      omega
    rw [ofNat, dif_pos h]
    exact congrArg surrogate (Fin.ext (Nat.add_sub_cancel_left ..))

theorem toNat_inj {c d : CodePoint} : c.toNat = d.toNat ↔ c = d := by
  refine ⟨fun h => ?_, congrArg toNat⟩
  rw [← ofNat_toNat c, h, ofNat_toNat]

end CodePoint

structure Text where
  ofList ::
  toList : List CodePoint
  deriving DecidableEq, Repr, Inhabited

namespace Text

/-- The text of characters. -/
def ofString (s : String) : Text := ⟨s.toList.map .char⟩

instance : Coe String Text := ⟨ofString⟩

instance : Append Text := ⟨fun s t => ⟨s.toList ++ t.toList⟩⟩

@[simp] theorem toList_ofList (s : List CodePoint) : (ofList s).toList = s := rfl

@[simp] theorem ofList_toList (s : Text) : ofList s.toList = s := rfl

@[simp] theorem toList_append (s t : Text) : (s ++ t).toList = s.toList ++ t.toList := rfl

@[simp] theorem toList_ofString (s : String) : (ofString s).toList = s.toList.map .char := rfl

theorem toList_inj {s t : Text} : s.toList = t.toList ↔ s = t := by
  cases s
  cases t
  simp

@[simp] theorem ofString_inj {s t : String} : ofString s = ofString t ↔ s = t := by
  rw [← toList_inj, toList_ofString, toList_ofString, List.map_inj_right fun _ _ => CodePoint.char.inj, String.toList_inj]

theorem toList_eq_nil {s : Text} : s.toList = [] ↔ s = "" := toList_inj (t := "")

/-- The text that is given, unless it is empty. -/
def ifFilled (text? : Option Text) : Option Text := text?.filter fun text => text != ofString ""

theorem ifFilled_some {s : Text} (h : s ≠ "") : ifFilled (some s) = some s := by simp [ifFilled, Option.filter, h]

/-- The text in characters, where all its code points are. -/
def string? (s : Text) : Option String :=
  (s.toList.mapM CodePoint.char?).map String.ofList

/-- The texts in a row. -/
def join (texts : List Text) : Text := ⟨texts.flatMap toList⟩

/-- The texts in a row with a separator between any two. -/
def intercalate (separator : Text) (texts : List Text) : Text :=
  ⟨separator.toList.intercalate (texts.map toList)⟩

/-! ## The order of texts -/

/-- The numbers of the code points. -/
def numbers (s : Text) : List Nat := s.toList.map CodePoint.toNat

theorem numbers_inj {s t : Text} : s.numbers = t.numbers ↔ s = t := by
  have hinj : ∀ c d : CodePoint, c.toNat = d.toNat → c = d := fun _ _ => CodePoint.toNat_inj.1
  rw [numbers, numbers, List.map_inj_right hinj, toList_inj]

/-- The first difference decides, and a text comes before its extensions. -/
instance : LT Text := ⟨fun s t => s.numbers < t.numbers⟩

instance : LE Text := ⟨fun s t => ¬ t < s⟩

instance : DecidableLT Text := fun s t => inferInstanceAs (Decidable (s.numbers < t.numbers))

instance : DecidableLE Text := fun s t => inferInstanceAs (Decidable (¬ t < s))

instance : Ord Text := ⟨fun s t => compareOfLessAndEq s t⟩

end Text

end BuildProfiles
