/-
Blank characters, and cutting them off both ends of a text.

`trimBy p s` is `s` without its longest head and longest tail of characters
that `p` accepts; what stands between two other characters stays.
-/
import BuildProfiles.Text

namespace BuildProfiles.Text

/-- Closed ranges of code points of the blank characters: the space
characters of Unicode and the four information separators. -/
def blankRanges : List (Nat × Nat) :=
  [(0x09, 0x0D), (0x1C, 0x20), (0x85, 0x85), (0xA0, 0xA0), (0x1680, 0x1680), (0x2000, 0x200A),
   (0x2028, 0x2029), (0x202F, 0x202F), (0x205F, 0x205F), (0x3000, 0x3000)]

/-- Whether one of the closed ranges holds the code point of `c`. -/
def inRanges (ranges : List (Nat × Nat)) (c : CodePoint) : Bool :=
  ranges.any fun (first, last) => first ≤ c.toNat && c.toNat ≤ last

/-- A character that separates words and is dropped around them. -/
def isBlank (c : CodePoint) : Bool := inRanges blankRanges c

/-- `s` without its longest head and its longest tail of characters in `p`. -/
def trimBy (p : CodePoint → Bool) (s : List CodePoint) : List CodePoint :=
  ((s.dropWhile p).reverse.dropWhile p).reverse

/-- `s` without the blanks around it. -/
def trim (s : List CodePoint) : List CodePoint := trimBy isBlank s

/-- A text whose first and last characters `p` refuses is its own trimming. -/
theorem trimBy_eq_self {p : CodePoint → Bool} {s : List CodePoint}
    (hd : ∀ c ∈ s.head?, p c = false) (tl : ∀ c ∈ s.getLast?, p c = false) : trimBy p s = s := by
  have drop : ∀ t : List CodePoint, (∀ c ∈ t.head?, p c = false) → t.dropWhile p = t := by
    intro t ht
    cases t with
    | nil => rfl
    | cons a t => simp [ht a (by simp)]
  rw [trimBy, drop s hd, drop s.reverse (by simpa [List.head?_reverse] using tl), List.reverse_reverse]

theorem trimBy_eq_self_of_forall {p : CodePoint → Bool} {s : List CodePoint} (h : ∀ c ∈ s, p c = false) :
    trimBy p s = s :=
  trimBy_eq_self (fun c hc => h c (List.mem_of_mem_head? hc))
    fun c hc => h c (List.mem_of_mem_getLast? hc)

/-- Trimming drops nothing but characters in `p`. -/
theorem mem_trimBy {p : CodePoint → Bool} {s : List CodePoint} {c : CodePoint} (h : c ∈ s) (hc : p c = false) :
    c ∈ trimBy p s := by
  have drop : ∀ t : List CodePoint, c ∈ t → c ∈ t.dropWhile p := by
    intro t ht
    induction t with
    | nil => exact ht
    | cons a t ih =>
      by_cases ha : p a = true
      · rw [List.dropWhile_cons_of_pos ha]
        rcases List.mem_cons.1 ht with rfl | ht
        · rw [hc] at ha; cases ha
        · exact ih ht
      · rwa [List.dropWhile_cons_of_neg ha]
  rw [trimBy, List.mem_reverse]
  exact drop _ (List.mem_reverse.2 (drop s h))

theorem trimBy_cons {p : CodePoint → Bool} {c : CodePoint} (h : p c = true) (s : List CodePoint) :
    trimBy p (c :: s) = trimBy p s := by
  rw [trimBy, trimBy, List.dropWhile_cons_of_pos h]

/-- A first character that `p` refuses stays in front. -/
theorem trimBy_cons_of_not {p : CodePoint → Bool} {c : CodePoint} (h : p c = false) (s : List CodePoint) :
    trimBy p (c :: s) = c :: (s.reverse.dropWhile p).reverse := by
  rw [trimBy, List.dropWhile_cons_of_neg (by simp [h]), List.reverse_cons, List.dropWhile_append]
  cases hs : s.reverse.dropWhile p <;> simp [h]

theorem trimBy_concat {p : CodePoint → Bool} {c : CodePoint} (h : p c = true) (s : List CodePoint) :
    trimBy p (s ++ [c]) = trimBy p s := by
  rw [trimBy, trimBy, List.dropWhile_append]
  cases hs : s.dropWhile p <;> simp [h]

/-- Nothing but blanks. -/
def Blank (s : List CodePoint) : Prop := ∀ c ∈ s, isBlank c = true

instance (s : List CodePoint) : Decidable (Blank s) := decidable_of_iff (s.all isBlank = true) List.all_eq_true

theorem trim_blank_append {s : List CodePoint} (h : Blank s) (t : List CodePoint) : trim (s ++ t) = trim t := by
  induction s with
  | nil => rfl
  | cons c s ih =>
    rw [List.cons_append, trim, trimBy_cons (h c List.mem_cons_self)]
    exact ih fun d hd => h d (List.mem_cons_of_mem c hd)

theorem trim_blank {s : List CodePoint} (h : Blank s) : trim s = [] := by
  rw [← List.append_nil s, trim_blank_append h]
  rfl

theorem trim_append_blank {s : List CodePoint} (h : Blank s) (t : List CodePoint) : trim (t ++ s) = trim t := by
  induction s generalizing t with
  | nil => rw [List.append_nil]
  | cons c s ih =>
    rw [List.append_cons, ih fun d hd => h d (List.mem_cons_of_mem c hd), trim,
      trimBy_concat (h c List.mem_cons_self)]
    rfl

/-- No blank stands at either end. -/
structure Trimmed (s : List CodePoint) : Prop where
  opens : ∀ c ∈ s.head?, isBlank c = false
  ends : ∀ c ∈ s.getLast?, isBlank c = false

instance (s : List CodePoint) : Decidable (Trimmed s) :=
  decidable_of_iff (s.head?.any isBlank = false ∧ s.getLast?.any isBlank = false) <| by
    rw [Option.any_eq_false, Option.any_eq_false]
    exact ⟨fun h => ⟨h.1, h.2⟩, fun h => ⟨h.opens, h.ends⟩⟩

/-- No separator is in the text, so that the text can be told from what stands
around it, and no blank stands at either end. -/
structure Writable (separator : CodePoint) (s : List CodePoint) : Prop where
  whole : separator ∉ s
  trimmed : Trimmed s

instance (separator : CodePoint) (s : List CodePoint) : Decidable (Writable separator s) :=
  decidable_of_iff (separator ∉ s ∧ Trimmed s) ⟨fun h => ⟨h.1, h.2⟩, fun h => ⟨h.whole, h.trimmed⟩⟩

theorem Blank.notMem {separator : CodePoint} {pad : List CodePoint} (h : Blank pad)
    (hseparator : isBlank separator = false) : separator ∉ pad := fun hmem => by
  rw [h separator hmem] at hseparator
  cases hseparator

theorem Trimmed.cons {c : CodePoint} {s : List CodePoint} (hs : Trimmed s) (hc : isBlank c = false) :
    Trimmed (c :: s) := by
  refine ⟨?_, ?_⟩
  · simpa using hc
  · cases s with
    | nil => simpa using hc
    | cons d s => simpa using hs.ends

/-- Blanks around a text are all that is cut off. -/
theorem trim_padded {left s right : List CodePoint} (hl : Blank left) (hs : Trimmed s) (hr : Blank right) :
    trim (left ++ s ++ right) = s := by
  rw [trim_append_blank hr, trim_blank_append hl]
  exact trimBy_eq_self hs.opens hs.ends

end BuildProfiles.Text
