/-
Expanding a template replaces its expressions down to the last one.

A template is made of characters other than `$` and of whole expressions, so
cutting its text gives its pieces back (`pieces_spelled`). Where every value is
a template, one pass takes a template to the template in which each expression
with a value has become the pieces of that value (`pass_spelled`), and a nesting
of names that is `n` deep is gone after `n` passes (`expands_iff`).
-/
import BuildProfiles.Interpolation
import Mathlib.Data.List.Basic
import Mathlib.Logic.Function.Iterate

namespace BuildProfiles.Expression

open Text

variable {value? : Text → Option Text} {rank : Text → Nat} {ps : List Piece}

/-! ## One cut at a time -/

theorem pieces_of_opening? {s name rest : List CodePoint} (h : opening? s = some (name, rest)) :
    pieces s = .expression name :: pieces rest := by
  rw [pieces]
  split
  · rename_i found
    rw [h] at found
    cases found
    rfl
  · rename_i found
    rw [h] at found
    cases found

theorem pieces_nil : pieces [] = [] := by rw [pieces]; rfl

theorem pieces_of_literal {c : CodePoint} {s : List CodePoint} (h : opening? (c :: s) = none) :
    pieces (c :: s) = .literal c :: pieces s := by
  rw [pieces]
  split
  · rename_i found
    rw [h] at found
    cases found
  · rfl

/-! ## Repeated passes -/

theorem pass_nil : pass value? [] = [] := by rw [pass, pieces_nil]; rfl

theorem pass_of_opening? {s name rest : List CodePoint} (h : opening? s = some (name, rest)) :
    pass value? s = (Piece.expression name).replaced value? ++ pass value? rest := by
  rw [pass, pieces_of_opening? h]
  rfl

theorem pass_of_literal {c : CodePoint} {s : List CodePoint} (h : opening? (c :: s) = none) :
    pass value? (c :: s) = c :: pass value? s := by
  rw [pass, pieces_of_literal h]
  rfl

/-- Stopping at a pass that changes nothing makes no difference to the text. -/
theorem repeatPass_text (n : Nat) (s : List CodePoint) :
    (repeatPass value? n s).text = (pass value?)^[n] s := by
  induction n generalizing s with
  | zero => rfl
  | succ n ih =>
    rw [repeatPass]
    split
    · rename_i hfixed
      exact (Function.iterate_fixed hfixed (n + 1)).symm
    · rw [ih, Function.iterate_succ_apply]

theorem opening?_of_not_hasOpening {s : List CodePoint} (h : hasOpening s = false) : opening? s = none := by
  cases ho : opening? s with
  | none => rfl
  | some found =>
    rw [(eq_of_opening? ho).1] at h
    simp [Piece.spell, hasOpening, opening] at h

theorem pass_of_not_hasOpening {s : List CodePoint} (h : hasOpening s = false) : pass value? s = s := by
  induction s with
  | nil => exact pass_nil
  | cons c s ih =>
    have hrest : hasOpening s = false := by
      rw [hasOpening, Bool.or_eq_false_iff] at h
      exact h.2
    rw [pass_of_literal (opening?_of_not_hasOpening h), ih hrest]

/-- An expansion is ten passes. -/
theorem expand_text (s : List CodePoint) : (expand value? s).text = (pass value?)^[maxPasses] s := by
  rw [expand]
  split
  · exact repeatPass_text maxPasses s
  · rename_i h
    exact (Function.iterate_fixed (pass_of_not_hasOpening (by simpa using h)) maxPasses).symm

/-! ## Templates -/

/-- A piece that templates are made of. -/
def Piece.Proper : Piece → Prop
  | .literal c => c ≠ '$'
  | .expression name => name ≠ [] ∧ .char '}' ∉ name

instance : DecidablePred Piece.Proper
  | .literal c => inferInstanceAs (Decidable (c ≠ '$'))
  | .expression name => inferInstanceAs (Decidable (name ≠ [] ∧ .char '}' ∉ name))

/-- The text that pieces write. -/
def spelled (ps : List Piece) : List CodePoint := ps.flatMap Piece.spell

/-- Proper pieces in a row. -/
structure Template where
  pieces : List Piece
  proper : ∀ p ∈ pieces, p.Proper

def Template.text (template : Template) : Text := Text.ofList (spelled template.pieces)

theorem opening?_expression {name rest : List CodePoint} (h : (Piece.expression name).Proper) :
    opening? ((Piece.expression name).spell ++ rest) = some (name, rest) := by
  obtain ⟨hne, hmark⟩ := h
  have hname : ∀ c ∈ name, (c != '}') = true := by
    intro c hc
    rw [bne_iff_ne]
    rintro rfl
    exact hmark hc
  have hspell : (Piece.expression name).spell ++ rest = .char '$' :: .char '{' :: (name ++ .char '}' :: rest) := by
    simp [Piece.spell]
  obtain ⟨c, tail, rfl⟩ := List.exists_cons_of_ne_nil hne
  rw [hspell, opening?, List.takeWhile_append_of_pos hname, List.dropWhile_append_of_pos hname]
  simp

theorem opening?_literal {c : CodePoint} {rest : List CodePoint} (h : (Piece.literal c).Proper) :
    opening? (c :: rest) = none := by
  unfold opening?
  split
  · rename_i heq
    injection heq with hc
    exact absurd hc h
  · rfl

/-- Cutting what proper pieces write gives the pieces back. -/
theorem pieces_spelled (h : ∀ p ∈ ps, p.Proper) : pieces (spelled ps) = ps := by
  induction ps with
  | nil => exact pieces_nil
  | cons p ps ih =>
    obtain ⟨hp, hps⟩ := List.forall_mem_cons.1 h
    rw [spelled, List.flatMap_cons]
    cases p with
    | literal c => exact (pieces_of_literal (opening?_literal hp)).trans (congrArg _ (ih hps))
    | expression name => exact (pieces_of_opening? (opening?_expression hp)).trans (congrArg _ (ih hps))

theorem Template.pieces_text (template : Template) : Expression.pieces template.text.toList = template.pieces := by
  rw [text, Text.toList_ofList, pieces_spelled template.proper]

/-! ## What is looked up -/

/-- The name that an expression looks up: the written one without the blanks around it. -/
def key (written : List CodePoint) : Text := Text.ofList (trim written)

def Piece.key? : Piece → Option Text
  | .literal _ => none
  | .expression written => some (key written)

/-- The names that expressions among the pieces look up and that have a value. -/
def mentioned (value? : Text → Option Text) (ps : List Piece) : List Text :=
  (ps.filterMap Piece.key?).filter fun name => (value? name).isSome

theorem mem_mentioned {name : Text} :
    name ∈ mentioned value? ps ↔
      (∃ written, .expression written ∈ ps ∧ key written = name) ∧ (value? name).isSome = true := by
  rw [mentioned, List.mem_filter, List.mem_filterMap]
  refine and_congr_left fun _ => ⟨fun ⟨p, hp, hkey⟩ => ?_, fun ⟨written, hp, hkey⟩ => ?_⟩
  · cases p with
    | literal c => cases hkey
    | expression written => exact ⟨written, hp, Option.some.inj hkey⟩
  · exact ⟨_, hp, congrArg some hkey⟩

/-- Every value is a template, and mentions only names of a lower rank than the
name that it belongs to. -/
def Ranked (value? : Text → Option Text) (rank : Text → Nat) : Prop :=
  ∀ name value, value? name = some value → ∃ template : Template, template.text = value ∧
    ∀ other ∈ mentioned value? template.pieces, rank other < rank name

/-- The full expansion: an expression becomes the expansion of its value, and
one that finds none stays as it is written. -/
inductive Expands (value? : Text → Option Text) : List Piece → List CodePoint → Prop
  | nil : Expands value? [] []
  | literal {c ps s} : Expands value? ps s → Expands value? (.literal c :: ps) (c :: s)
  | undefined {written ps s} : value? (key written) = none → Expands value? ps s →
      Expands value? (.expression written :: ps) ((Piece.expression written).spell ++ s)
  | defined {written ps s value inner} {template : Template} :
      value? (key written) = some value → template.text = value →
      Expands value? template.pieces inner → Expands value? ps s →
      Expands value? (.expression written :: ps) (inner ++ s)

/-! ## One pass over a template -/

/-- The pieces that a pass puts in the place of one. -/
def Piece.substitute (value? : Text → Option Text) : Piece → List Piece
  | .literal c => [.literal c]
  | .expression written =>
    match value? (key written) with
    | some value => pieces value.toList
    | none => [.expression written]

def substituted (value? : Text → Option Text) (ps : List Piece) : List Piece :=
  ps.flatMap (Piece.substitute value?)

theorem spelled_substitute (p : Piece) : spelled (p.substitute value?) = p.replaced value? := by
  cases p with
  | literal c => rfl
  | expression written =>
    rw [Piece.substitute, Piece.replaced, key]
    cases value? (Text.ofList (trim written)) with
    | some value => exact spell_pieces value.toList
    | none => exact List.append_nil _

/-- A pass over the text of proper pieces. -/
theorem pass_spelled (h : ∀ p ∈ ps, p.Proper) :
    pass value? (spelled ps) = spelled (substituted value? ps) := by
  rw [pass, pieces_spelled h, substituted, spelled, List.flatMap_assoc]
  exact List.flatMap_congr fun p _ => (spelled_substitute p).symm

/-- The value of a mentioned name, cut into its pieces. -/
theorem Ranked.pieces_value (ranked : Ranked value? rank) {name value : Text}
    (h : value? name = some value) :
    (∀ p ∈ pieces value.toList, p.Proper) ∧
      ∀ other ∈ mentioned value? (pieces value.toList), rank other < rank name := by
  obtain ⟨template, rfl, lower⟩ := ranked name value h
  rw [template.pieces_text]
  exact ⟨template.proper, lower⟩

/-- A pass leaves a template, with the names that it mentions one rank down. -/
theorem Ranked.steps_down (ranked : Ranked value? rank) (h : ∀ p ∈ ps, p.Proper) {n : Nat}
    (bound : ∀ name ∈ mentioned value? ps, rank name < n + 1) :
    (∀ p ∈ substituted value? ps, p.Proper) ∧
      ∀ name ∈ mentioned value? (substituted value? ps), rank name < n := by
  constructor
  · intro q hq
    obtain ⟨p, hp, hq⟩ := List.mem_flatMap.1 hq
    cases p with
    | literal c => exact List.mem_singleton.1 hq ▸ h _ hp
    | expression written =>
      rw [Piece.substitute] at hq
      split at hq
      · rename_i value hvalue
        exact (ranked.pieces_value hvalue).1 q hq
      · exact List.mem_singleton.1 hq ▸ h _ hp
  · intro name hname
    obtain ⟨⟨other, hmem, hkey⟩, hsome⟩ := mem_mentioned.1 hname
    obtain ⟨p, hp, hmem⟩ := List.mem_flatMap.1 hmem
    cases p with
    | literal c => cases List.mem_singleton.1 hmem
    | expression written =>
      rw [Piece.substitute] at hmem
      split at hmem
      · rename_i value hvalue
        have hupper := bound (key written) (mem_mentioned.2 ⟨⟨written, hp, rfl⟩, hvalue ▸ rfl⟩)
        have hlower := (ranked.pieces_value hvalue).2 name (mem_mentioned.2 ⟨⟨other, hmem, hkey⟩, hsome⟩)
        omega
      · -- What a pass leaves alone has no value.
        rename_i hnone
        injection List.mem_singleton.1 hmem with hwritten
        rw [← hkey, hwritten, hnone] at hsome
        cases hsome

/-! ## Full expansion -/

theorem expands_cons_literal {c : CodePoint} {u : List CodePoint} :
    Expands value? (.literal c :: ps) u ↔ ∃ s, Expands value? ps s ∧ u = c :: s := by
  constructor
  · intro h
    cases h with
    | literal h => exact ⟨_, h, rfl⟩
  · rintro ⟨s, h, rfl⟩
    exact .literal h

theorem expands_append {qs : List Piece} {u : List CodePoint} :
    Expands value? (ps ++ qs) u ↔
      ∃ s t, Expands value? ps s ∧ Expands value? qs t ∧ u = s ++ t := by
  constructor
  · intro h
    induction ps generalizing u with
    | nil => exact ⟨[], u, .nil, h, rfl⟩
    | cons p ps ih =>
      cases h with
      | literal h =>
        obtain ⟨s, t, hs, ht, rfl⟩ := ih h
        exact ⟨_, t, .literal hs, ht, rfl⟩
      | undefined hnone h =>
        obtain ⟨s, t, hs, ht, rfl⟩ := ih h
        exact ⟨_, t, .undefined hnone hs, ht, (List.append_assoc ..).symm⟩
      | defined hvalue htext hinner h =>
        obtain ⟨s, t, hs, ht, rfl⟩ := ih h
        exact ⟨_, t, .defined hvalue htext hinner hs, ht, (List.append_assoc ..).symm⟩
  · rintro ⟨s, t, hs, ht, rfl⟩
    induction hs with
    | nil => exact ht
    | literal _ ih => exact .literal ih
    | undefined hnone _ ih => exact List.append_assoc .. ▸ .undefined hnone ih
    | defined hvalue htext hinner _ _ ih => exact List.append_assoc .. ▸ .defined hvalue htext hinner ih

/-- What has no value anywhere expands to itself. -/
theorem expands_iff_of_none_mentioned (h : ∀ name, name ∉ mentioned value? ps) {u : List CodePoint} :
    Expands value? ps u ↔ u = spelled ps := by
  induction ps generalizing u with
  | nil =>
    constructor
    · intro h
      cases h
      rfl
    · rintro rfl
      exact .nil
  | cons p ps ih =>
    have hrest : ∀ name, name ∉ mentioned value? ps := fun name hname => by
      obtain ⟨⟨written, hmem, hkey⟩, hsome⟩ := mem_mentioned.1 hname
      exact h name (mem_mentioned.2 ⟨⟨written, List.mem_cons_of_mem _ hmem, hkey⟩, hsome⟩)
    cases p with
    | literal c =>
      rw [expands_cons_literal]
      simp only [ih hrest, exists_eq_left]
      rfl
    | expression written =>
      have hnone : value? (key written) = none := by
        rw [← Option.not_isSome_iff_eq_none]
        exact fun hsome => h _ (mem_mentioned.2 ⟨⟨written, List.mem_cons_self, rfl⟩, hsome⟩)
      constructor
      · intro h
        cases h with
        | undefined _ h => rw [(ih hrest).1 h]; rfl
        | defined hvalue => rw [hnone] at hvalue; cases hvalue
      · rintro rfl
        exact .undefined hnone ((ih hrest).2 rfl)

/-- One pass does not change what the pieces expand to. -/
theorem Ranked.expands_substituted (ranked : Ranked value? rank) {u : List CodePoint} :
    Expands value? (substituted value? ps) u ↔ Expands value? ps u := by
  induction ps generalizing u with
  | nil => exact Iff.rfl
  | cons p ps ih =>
    rw [substituted, List.flatMap_cons, ← substituted, expands_append]
    simp only [ih]
    cases p with
    | literal c =>
      rw [← expands_append]
      exact Iff.rfl
    | expression written =>
      rw [Piece.substitute]
      constructor
      · rintro ⟨s, t, hs, ht, rfl⟩
        split at hs
        · rename_i value hvalue
          obtain ⟨template, rfl, -⟩ := ranked _ _ hvalue
          rw [template.pieces_text] at hs
          exact .defined hvalue rfl hs ht
        · rename_i hnone
          cases hs with
          | undefined _ hs =>
            cases hs
            rw [List.append_nil]
            exact .undefined hnone ht
          | defined hvalue => rw [hnone] at hvalue; cases hvalue
      · intro h
        cases h with
        | undefined hnone h =>
          rw [hnone]
          exact ⟨_, _, .undefined hnone .nil, h, by rw [List.append_nil]⟩
        | @defined _ _ _ _ _ template hvalue htext hinner h =>
          subst htext
          rw [hvalue]
          refine ⟨_, _, ?_, h, rfl⟩
          show Expands value? (pieces template.text.toList) _
          rwa [template.pieces_text]

/-- **A nesting of `n` ranks is gone after `n` passes.** -/
theorem Ranked.expands_iff (ranked : Ranked value? rank) (h : ∀ p ∈ ps, p.Proper) {n : Nat}
    (bound : ∀ name ∈ mentioned value? ps, rank name < n) {u : List CodePoint} :
    Expands value? ps u ↔ u = (pass value?)^[n] (spelled ps) := by
  induction n generalizing ps with
  | zero => exact expands_iff_of_none_mentioned fun name hname => absurd (bound name hname) (by omega)
  | succ n ih =>
    obtain ⟨hproper, hbound⟩ := ranked.steps_down h bound
    rw [← ranked.expands_substituted, ih hproper hbound, Function.iterate_succ_apply, pass_spelled h]

/-- **Expanding a template replaces its expressions down to the last one**, as
long as what it mentions is of rank nine at most: there is one full expansion,
and it is what comes out. -/
theorem expandText_template {values : Properties} (ranked : Ranked values.get? rank) (template : Template)
    (bound : ∀ name ∈ mentioned values.get? template.pieces, rank name ≤ 9) (text : List CodePoint) :
    Expands values.get? template.pieces text ↔
      Interpolator.expandText values.get? template.text = Text.ofList text := by
  rw [ranked.expands_iff template.proper (n := maxPasses) fun name h => Nat.lt_succ_of_le (bound name h),
    Interpolator.expandText, expand_text, Template.text, Text.toList_ofList, Text.ofList.injEq, eq_comm]

theorem ranked_of_entries {values : Properties}
    (h : ∀ entry ∈ values.entries, (∀ p ∈ pieces entry.2.toList, p.Proper) ∧
      ∀ other ∈ mentioned values.get? (pieces entry.2.toList), rank other < rank entry.1) :
    Ranked values.get? rank := by
  intro name value hvalue
  obtain ⟨before, after, hentries, -⟩ := List.lookup_eq_some_iff.1 hvalue
  obtain ⟨proper, lower⟩ := h (name, value) (hentries ▸ List.mem_append_right _ List.mem_cons_self)
  refine ⟨⟨pieces value.toList, proper⟩, ?_, lower⟩
  rw [Template.text, spelled, spell_pieces, Text.ofList_toList]

/-- Ten values, each but the first written in terms of the one before it. -/
theorem expandText_chain :
    let values : Properties := .ofList [
      ("a", "end"), ("b", "${a}"), ("c", "<${ b }>"), ("d", "${c}"), ("e", "${d}"), ("f", "${e}${nope }"),
      ("g", "${f}"), ("h", "${g}"), ("i", "${h}"), ("j", "${i}")]
    let rank (name : Text) : Nat := (values.entries.map Prod.fst).idxOf name
    let template : Template := ⟨[.literal '(', .expression [' ', 'j'], .literal ')'], by decide⟩
    (Ranked values.get? rank ∧ ∀ name ∈ mentioned values.get? template.pieces, rank name ≤ 9) ∧
      Expands values.get? template.pieces ("(<end>${nope })" : Text).toList := by
  intro values rank template
  have ranked : Ranked values.get? rank := ranked_of_entries (by decide +kernel)
  have bound : ∀ name ∈ mentioned values.get? template.pieces, rank name ≤ 9 := by decide +kernel
  exact ⟨⟨ranked, bound⟩, (expandText_template ranked template bound _).2 (by decide +kernel)⟩

end BuildProfiles.Expression
