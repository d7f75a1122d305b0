/-
Expressions in a text, and their expansion.

An expression is `${name}`, where the name is not empty and holds no `}`.
`pieces` cuts a text into expressions and single characters, and spelling the
pieces gives the text back (`spell_pieces`). One pass replaces each
expression whose name has a value, the blanks around the name not counted;
`expand` repeats the pass until it changes nothing, at most ten times.
-/
import BuildProfiles.Text.Blank

namespace BuildProfiles.Expression

open Text

/-- A stretch of a text: one character, or an expression by its written name. -/
inductive Piece where
  | literal (c : CodePoint)
  | expression (name : List CodePoint)
  deriving DecidableEq, Repr

def Piece.spell : Piece → List CodePoint
  | .literal c => [c]
  | .expression name => CodePoint.char '$' :: .char '{' :: name ++ [.char '}']

/-- The written name of the expression that opens the text, and what follows it. -/
def opening? : List CodePoint → Option (List CodePoint × List CodePoint)
  | .char '$' :: .char '{' :: s =>
    match s.takeWhile (· != .char '}'), s.dropWhile (· != .char '}') with
    | c :: name, _ :: rest => some (c :: name, rest)
    | _, _ => none
  | _ => none

theorem eq_of_opening? {s name rest : List CodePoint} (h : opening? s = some (name, rest)) :
    s = (Piece.expression name).spell ++ rest ∧ name ≠ [] ∧ .char '}' ∉ name := by
  unfold opening? at h
  split at h
  · rename_i s
    split at h
    · rename_i c head d tail ht hd
      simp only [Option.some.injEq, Prod.mk.injEq] at h
      obtain ⟨rfl, rfl⟩ := h
      have whole := List.takeWhile_append_dropWhile (p := (· != .char '}')) (l := s)
      have stop : d = .char '}' := by
        have := List.head?_dropWhile_not (fun x => x != .char '}') s
        rw [hd] at this
        simpa using this
      rw [ht, hd, stop] at whole
      refine ⟨by simp [Piece.spell, ← whole], by simp, fun mem => ?_⟩
      have := List.all_eq_true.1 (List.all_takeWhile (p := (· != .char '}')) (l := s)) (.char '}') (ht ▸ mem)
      simp at this
    · cases h
  · cases h

theorem length_lt_of_opening? {s name rest : List CodePoint} (h : opening? s = some (name, rest)) :
    rest.length < s.length := by
  rw [(eq_of_opening? h).1]
  simp [Piece.spell]
  omega

/-- The pieces of a text, expressions as far left as possible. -/
def pieces (s : List CodePoint) : List Piece :=
  match _h : opening? s with
  | some (name, rest) => .expression name :: pieces rest
  | none =>
    match s with
    | [] => []
    | c :: s => .literal c :: pieces s
termination_by s.length
decreasing_by
  · exact length_lt_of_opening? (by assumption)
  · simp

/-- Nothing of the text is lost. -/
theorem spell_pieces (s : List CodePoint) : (pieces s).flatMap Piece.spell = s := by
  fun_induction pieces s with
  | case1 s name rest h ih => rw [List.flatMap_cons, ih, ← (eq_of_opening? h).1]
  | case2 => rfl
  | case3 c s h ih => rw [List.flatMap_cons, ih]; rfl

def Piece.replaced (value? : Text → Option Text) : Piece → List CodePoint
  | .literal c => [c]
  | .expression name =>
    match value? (Text.ofList (trim name)) with
    | some value => value.toList
    | none => (Piece.expression name).spell

/-- The text with each expression replaced whose name has a value. -/
def pass (value? : Text → Option Text) (s : List CodePoint) : List CodePoint :=
  (pieces s).flatMap (Piece.replaced value?)

/-- What came of repeated passes. -/
structure Expansion where
  text : List CodePoint
  /-- Whether the last pass allowed still changed the text. -/
  gaveUp : Bool
  deriving DecidableEq, Repr

/-- At most `n` passes over `s`, up to the first that changes nothing. -/
def repeatPass (value? : Text → Option Text) : (n : Nat) → (s : List CodePoint) → Expansion
  | 0, s => ⟨s, true⟩
  | n + 1, s =>
    let next := pass value? s
    if next = s then ⟨s, false⟩ else repeatPass value? n next

def maxPasses : Nat := 10

/-- What an expression opens with. -/
def opening : List CodePoint := ['$', '{']

def hasOpening : List CodePoint → Bool
  | [] => false
  | c :: s => opening.isPrefixOf (c :: s) || hasOpening s

/-- The text with its expressions expanded. A text without the opening of an
expression is not looked at further. -/
def expand (value? : Text → Option Text) (s : List CodePoint) : Expansion :=
  if hasOpening s then repeatPass value? maxPasses s else ⟨s, false⟩

end BuildProfiles.Expression
